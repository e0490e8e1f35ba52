import ModalEditing.Proofs.TurnEnd

/-! What a step leaves alone. It only adds to the actions of its turn, and does not look at
those there are; of the keys to come it takes the first and puts others before the rest. So
a turn does with more keys to come, and with actions before, what it does without them. -/

namespace ModalEditing

namespace Turn

def after (acc : Array Action) (t : Turn) : Turn := { t with actions := acc ++ t.actions }

variable (acc : Array Action) (text : Text) (t : Turn)

@[simp] theorem after_toControl : (t.after acc).toControl = t.toControl := rfl

@[simp] theorem after_cursor : (t.after acc).cursor = t.cursor := rfl

theorem emit_after (a : Action) : (t.after acc).emit a = (t.emit a).after acc := by
  simp [emit, after]

theorem moveTo_after (p : Nat) : (t.after acc).moveTo p = (t.moveTo p).after acc :=
  emit_after acc { t with cursor := p } _

theorem settleAt_after (p : Nat) : (t.after acc).settleAt p = (t.settleAt p).after acc := by
  unfold settleAt
  rw [after_cursor]
  split
  · rfl
  · exact moveTo_after acc t p

theorem transition_after (e : ModeEvent) :
    (t.after acc).transition e = (t.transition e).after acc := rfl

theorem fail_after : (t.after acc).fail = t.fail.after acc :=
  emit_after acc { t with toControl := t.dropCommand } _

theorem showSelection_after : (t.after acc).showSelection = t.showSelection.after acc :=
  emit_after acc t _

theorem withModes_after (change : ModeState × Nat) :
    (t.after acc).withModes change = (t.withModes change).after acc :=
  settleAt_after acc { t with modes := change.1 } change.2

theorem operateOnSelection_after (o : Operator) :
    (t.after acc).operateOnSelection text o = (t.operateOnSelection text o).after acc := by
  simp only [operateOnSelection, takeCounted, selection?, after]
  cases t.modes.selection? t.cursor with
  | none => exact fail_after acc { t with command := {} }
  | some s => simp [emit, moveTo, leaveAfter, transition]

theorem runCommand_after (c : Command) :
    (t.after acc).runCommand text c = (t.runCommand text c).after acc := by
  unfold runCommand
  split
  · exact fail_after acc t
  · simp only [after_cursor, after_toControl]
    split
    · exact fail_after acc t
    · simp [after, emit, moveTo, leaveAfter, transition]

theorem operator_after (o : Operator) :
    (t.after acc).operator text o = (t.operator text o).after acc := by
  unfold operator
  simp only [after_toControl]
  split
  · exact operateOnSelection_after acc text t o
  · split
    · rfl
    · exact runCommand_after acc text { t with command := {} } _
    · exact fail_after acc t
  · split
    · rfl
    · exact runCommand_after acc text { t with command := {} } _
    · exact fail_after acc t
  · exact fail_after acc t

theorem moveBy_after (m : Motion) (typed : Option Nat) :
    (t.after acc).moveBy text m typed = (t.moveBy text m typed).after acc := by
  unfold moveBy
  simp only [after_cursor, after_toControl]
  split
  · exact emit_after acc t .bell
  · exact moveTo_after acc { t with column := t.columnAfter text m } _

theorem finishMove_after : (t.after acc).finishMove text = (t.finishMove text).after acc := by
  unfold finishMove
  simp only [after_cursor, after_toControl, withModes_after]
  split
  · exact showSelection_after acc _
  · rfl

theorem goTo_after (o : TextObject) (span : Span) :
    (t.after acc).goTo o span = (t.goTo o span).after acc := by
  unfold goTo
  simp only [after_toControl]
  split <;> simp [after, emit, moveTo]

theorem unpended_after (typed : Option Nat) (a : Argument) :
    (match a with
      | .motion m => ((t.after acc).moveBy text m typed).finishMove text
      | .wholeLines => (t.after acc).finishMove text
      | .textObject o =>
        match o.find? text t.cursor (max (typed.getD 1) 1) with
        | none => (t.after acc).emit .bell
        | some span => ((t.after acc).goTo o (span.clamp text.size)).finishMove text) =
      Turn.after acc (match a with
      | .motion m => (t.moveBy text m typed).finishMove text
      | .wholeLines => t.finishMove text
      | .textObject o =>
        match o.find? text t.cursor (max (typed.getD 1) 1) with
        | none => t.emit .bell
        | some span => (t.goTo o (span.clamp text.size)).finishMove text) := by
  cases a with
  | motion m => simp only [moveBy_after, finishMove_after]
  | wholeLines => simp only [finishMove_after]
  | textObject o =>
    simp only
    split
    · exact emit_after acc t .bell
    · simp only [goTo_after, finishMove_after]

theorem argument_after (a : Argument) :
    (t.after acc).argument text a = (t.argument text a).after acc := by
  unfold argument takeCounted
  by_cases pending : t.mode.isOperatorPending
  · exact (if_pos pending).trans ((runCommand_after acc text { t with command := {} } _).trans
      (congrArg (after acc) (if_pos pending).symm))
  · exact (if_neg pending).trans
      ((unpended_after acc text { t with command := {} } t.command.totalCount a).trans
        (congrArg (after acc) (if_neg pending).symm))

theorem runEditCommand_after (c : EditCommand) :
    (t.after acc).runEditCommand text c = (t.runEditCommand text c).after acc := by
  cases c with
  | enterInsert => rfl
  | append => exact moveTo_after acc (t.transition .enterInsert) _
  | insertAtLineStart => exact moveTo_after acc (t.transition .enterInsert) _
  | appendAtLineEnd => exact moveTo_after acc (t.transition .enterInsert) _
  | enterReplace => rfl
  | toggleVisual shape =>
    exact showSelection_after acc { t with modes := t.modes.toggleVisual shape t.cursor }
  | enterSelect shape =>
    let u : Turn := { t with modes := t.modes.enterSelect shape t.cursor }
    by_cases further : shape ≠ .line ∧ t.cursor < text.contentStop t.cursor
    · have shown := (congrArg showSelection (moveTo_after acc u (t.cursor + 1))).trans
        (showSelection_after acc _)
      exact (if_pos further).trans (shown.trans (congrArg (after acc) (if_pos further).symm))
    · have shown := showSelection_after acc u
      exact (if_neg further).trans (shown.trans (congrArg (after acc) (if_neg further).symm))
  | toggleSelectVisual =>
    exact (congrArg showSelection (withModes_after acc t _)).trans (showSelection_after acc _)
  | singleVisualCommand =>
    exact (congrArg showSelection (withModes_after acc t _)).trans (showSelection_after acc _)
  | swapEnds =>
    let u : Turn := { t with modes := (t.modes.swapEnds t.cursor).1 }
    exact (congrArg showSelection (moveTo_after acc u _)).trans (showSelection_after acc _)

theorem editCommand_after (c : EditCommand) :
    (t.after acc).editCommand text c = (t.editCommand text c).after acc := by
  have ran := runEditCommand_after acc text { t with command := {} } c
  unfold editCommand
  simp only
  split
  · exact ran
  · exact congrArg (fun t : Turn => { t with column := none }) ran

theorem extensionCommand_after (f : ExtensionCommand) :
    (t.after acc).extensionCommand text f = (t.extensionCommand text f).after acc := by
  let scope := f text
    { modes := t.modes, cursor := t.cursor, count := max (t.command.totalCount.getD 1) 1,
      register := t.command.register }
  let u : Turn :=
    { t with command := {}, modes := scope.modes, actions := t.actions ++ scope.actions }
  have prepared :
      ({ t.after acc with
        command := {}, modes := scope.modes, actions := (t.after acc).actions ++ scope.actions } :
        Turn) = u.after acc := by
    simp [u, after]
  have settled := (congrArg (settleAt · (min scope.cursor text.size)) prepared).trans
    (settleAt_after acc u _)
  exact congrArg (fun v : Turn => { v with column := none }) settled

theorem run_after (f : Handler) : (t.after acc).run text f = (t.run text f).after acc := by
  cases f with
  | motion m => exact argument_after acc text t _
  | textObject o => exact argument_after acc text t _
  | operator o => exact operator_after acc text t o
  | command c => exact editCommand_after acc text t c
  | extension f => exact extensionCommand_after acc text t f

theorem typeChar_after (c : Char) : (t.after acc).typeChar c = (t.typeChar c).after acc := by
  unfold typeChar
  simp only [after_cursor, after_toControl, emit_after]
  split <;> rfl

theorem rubOut_after : (t.after acc).rubOut = t.rubOut.after acc := by
  unfold rubOut
  simp only [after_cursor, after_toControl, emit_after]
  by_cases start : t.cursor = 0
  · rw [if_pos start, if_pos start]
  · rw [if_neg start, if_neg start]
    split
    · exact moveTo_after acc t _
    · exact moveTo_after acc (t.emit _) _

theorem insertKey_after (k : Key) : (t.after acc).insertKey k = (t.insertKey k).after acc := by
  unfold insertKey
  split
  · rfl
  · exact rubOut_after acc t
  · split
    · exact typeChar_after acc t _
    · exact emit_after acc t .bell

theorem replaceSelection_after (c : Option Char) :
    (t.after acc).replaceSelection text c = (t.replaceSelection text c).after acc := by
  simp only [replaceSelection, selection?, after]
  cases t.modes.selection? t.cursor with
  | none => rfl
  | some s => cases c <;> simp [emit, moveTo, transition]

theorem selectKey_after (k : Key) :
    (t.after acc).selectKey text k = (t.selectKey text k).after acc := by
  unfold selectKey
  split
  · exact replaceSelection_after acc text t none
  · split
    · exact replaceSelection_after acc text t _
    · exact emit_after acc t .bell

end Turn

namespace Dispatch

/-- The same turn with actions before its own, keys after those to come, and `b` mappings left. -/
def behind (acc : Array Action) (rest : List Stroke) (b : Nat) (d : Dispatch) : Dispatch :=
  { d with toTurn := d.toTurn.after acc, queue := d.queue ++ rest, budget := b }

variable {km : Keymap} {text : Text} {d d' : Dispatch} (acc : Array Action) (rest : List Stroke)
  (b : Nat)

theorem fail_behind (d : Dispatch) : (d.behind acc rest b).fail = d.fail.behind acc rest b :=
  congrArg (fun t : Turn => ({ toTurn := t, queue := d.queue ++ rest, budget := b } : Dispatch))
    (Turn.fail_after acc d.toTurn)

theorem escape_behind (d : Dispatch) :
    (d.behind acc rest b).escape = d.escape.behind acc rest b := by
  by_cases partly : d.waiting ≠ [] ∨ ¬ d.command.isEmpty ∨ d.mode.isOperatorPending
  · have left : (d.behind acc rest b).escape =
        { d.behind acc rest b with toControl := d.dropCommand, waiting := [] } := if_pos partly
    have right : d.escape = { d with toControl := d.dropCommand, waiting := [] } := if_pos partly
    rw [left, right]
    rfl
  · by_cases selects : d.mode.hasSelection
    · have left : (d.behind acc rest b).escape =
          { d.behind acc rest b with
            toTurn := ((d.toTurn.after acc).transition .exit).emit (.setSelection none) } :=
        (if_neg partly).trans (if_pos selects)
      have right : d.escape =
          { d with toTurn := (d.toTurn.transition .exit).emit (.setSelection none) } :=
        (if_neg partly).trans (if_pos selects)
      rw [left, right, Turn.transition_after, Turn.emit_after]
      rfl
    · have left : (d.behind acc rest b).escape = d.behind acc rest b :=
        (if_neg partly).trans (if_neg selects)
      have right : d.escape = d := (if_neg partly).trans (if_neg selects)
      rw [left, right]

theorem nameRegister_behind (d : Dispatch) (k : Key) :
    (d.behind acc rest b).nameRegister k = (d.nameRegister k).behind acc rest b := by
  unfold nameRegister
  rw [show (d.behind acc rest b).command = d.command from rfl]
  split
  · rfl
  · exact fail_behind acc rest b d
  · exact fail_behind acc rest b d

theorem count?_behind (d : Dispatch) (c : Char) :
    (d.behind acc rest b).count? c = (d.count? c).map (behind acc rest b) := by
  unfold count?
  rw [show (d.behind acc rest b).command = d.command from rfl]
  split
  · rfl
  · split
    · cases d.command.startRegister? <;> rfl
    · rfl

theorem intercept?_behind (d : Dispatch) (k : Key) :
    (d.behind acc rest b).intercept? k = (d.intercept? k).map (behind acc rest b) := by
  unfold intercept?
  rw [show (d.behind acc rest b).mode = d.mode from rfl,
    show (d.behind acc rest b).waiting = d.waiting from rfl,
    show (d.behind acc rest b).command = d.command from rfl]
  split
  · rfl
  · split
    · rw [escape_behind]
      rfl
    · split
      · rfl
      · split
        · rw [nameRegister_behind]
          rfl
        · cases k.printable? with
          | none => rfl
          | some c => exact count?_behind acc rest b d c

theorem unmapped_behind (d : Dispatch) (text : Text) :
    (d.behind acc rest b).unmapped text = (d.unmapped text).behind acc rest b := by
  unfold unmapped
  rw [show (d.behind acc rest b).mode = d.mode from rfl,
    show (d.behind acc rest b).waiting = d.waiting from rfl]
  split
  · rfl
  · next first others _ =>
    split
    · simp [behind, Turn.insertKey_after]
    · split
      · simp [behind, Turn.selectKey_after]
      · exact fail_behind acc rest b d

theorem apply_behind {b : Nat} (d : Dispatch) (text : Text) (m : Mapping) (consumed : Nat)
    (hb : b ≤ d.budget) (left : m.isHandler = false → b ≠ 0) :
    ∃ b' ≤ (d.apply text m consumed).budget,
      (d.behind acc rest b).apply text m consumed =
        (d.apply text m consumed).behind acc rest b' := by
  have used := apply_budget d text m consumed
  cases target : m.target with
  | handler f =>
    have handler : m.isHandler := by rw [Mapping.isHandler, target]
    refine ⟨b, ?_, ?_⟩
    · simp [handler] at used
      omega
    · simp [apply, target, behind, Turn.run_after]
  | keys ks =>
    have produces : m.isHandler = false := by rw [Mapping.isHandler, target]
    obtain ⟨k, rfl⟩ : ∃ k, b = k + 1 := Nat.exists_eq_succ_of_ne_zero (left produces)
    obtain ⟨n, hn⟩ : ∃ n, d.budget = n + 1 := Nat.exists_eq_succ_of_ne_zero (by omega)
    refine ⟨k, ?_, ?_⟩
    · simp [produces, hn] at used
      omega
    · simp [apply, target, behind, hn]

section

variable {s : Stroke} {queue : List Stroke}

theorem looksUp_behind (hq : d.queue = s :: queue) :
    (d.behind acc rest b).looksUp false = d.looksUp false := by
  have caught := intercept?_behind acc rest b { d with queue } s.key
  unfold looksUp
  rw [show (d.behind acc rest b).queue = s :: (queue ++ rest) by simp [behind, hq], hq]
  exact (congrArg Option.isNone caught).trans Option.isNone_map

theorem accept_behind (hq : d.queue = s :: queue) :
    (d.behind acc rest b).accept = d.accept.behind acc rest b := by
  simp [accept, behind, hq]

theorem answer_behind (km : Keymap) (hq : d.queue = s :: queue) :
    (d.behind acc rest b).answer km false = d.answer km false := by
  rw [answer, answer, accept_behind acc rest b hq]
  rfl

end

theorem next?_of_answer (hl : d.looksUp false) :
    d.next? km text false = some (match d.answer km false with
      | .pending | .ambiguous => d.accept
      | .found m _ consumed => d.accept.apply text m consumed
      | .missing => d.accept.unmapped text) := by
  rw [next?_of_looksUp hl]
  exact congrArg some (resolve_accept d km text false)

theorem next?_behind {b : Nat} (h : d.next? km text false = some d') (hb : b ≤ d.budget)
    (limit : (d.behind acc rest b).overruns km false = false) :
    ∃ b' ≤ d'.budget, (d.behind acc rest b).next? km text false = some (d'.behind acc rest b') := by
  cases hq : d.queue with
  | nil =>
    rw [next?_eq_none_iff.2 ⟨hq, fun _ => by contradiction⟩] at h
    contradiction
  | cons s queue =>
    by_cases hl : d.looksUp false
    · have hl' := (looksUp_behind acc rest b hq).trans hl
      have answer := answer_behind acc rest b km hq
      rw [next?_of_answer hl] at h
      rw [next?_of_answer hl', answer, accept_behind acc rest b hq]
      obtain rfl := Option.some.inj h
      cases ha : d.answer km false with
      | pending => exact ⟨b, by simpa using hb, rfl⟩
      | ambiguous => exact ⟨b, by simpa using hb, rfl⟩
      | missing =>
        refine ⟨b, ?_, by rw [unmapped_behind]⟩
        rw [unmapped_budget, accept_budget]
        exact hb
      | found m i n =>
        -- one that produces keys uses up a mapping, and `limit` says that one is left
        have left : m.isHandler = false → b ≠ 0 := by
          intro produces
          have remaps : (d.behind acc rest b).remaps km false := by
            simp [remaps, hl', answer, ha, produces]
          simp only [overruns, remaps, Bool.true_and, beq_eq_false_iff_ne] at limit
          exact limit
        obtain ⟨b', hb', applied⟩ :=
          apply_behind acc rest d.accept text m n (by rwa [accept_budget]) left
        exact ⟨b', hb', congrArg some applied⟩
    -- without a look-up the key is caught, whatever keys follow it
    · obtain ⟨d₁, caught⟩ : ∃ d₁, { d with queue }.intercept? s.key = some d₁ := by
        rw [← Option.isSome_iff_exists, ← Option.isNone_eq_false_iff]
        simpa only [looksUp, hq, Bool.not_eq_true] using hl
      rw [next?_of_caught hq caught] at h
      obtain rfl := Option.some.inj h
      have before := intercept?_behind acc rest b { d with queue } s.key
      rw [caught] at before
      have longer : (d.behind acc rest b).queue = s :: (queue ++ rest) := by simp [behind, hq]
      exact ⟨b, by rw [(intercept?_eq caught).1]; exact hb, next?_of_caught longer before⟩

/-- A turn that sees the text `text'`, within a longer turn that sees `text`, when none of its
steps tells the two apart. -/
theorem run_behind {b : Nat} {text' : Text} (d : Dispatch) (hb : b ≤ d.budget)
    (limit : ∀ y ∈ (d.behind acc rest b).trace km text false, y.overruns km false = false)
    (same : ∀ y ∈ d.trace km text' false, y.next? km text' false = y.next? km text false) :
    ∃ b', (d.run km text' false).behind acc rest b' ∈
      (d.behind acc rest b).trace km text false := by
  -- along the shorter turn; the longer one keeps pace with fewer mappings left
  induction d using turn_induction km text' false generalizing b with
  | ended d h =>
    rw [run_of_none h]
    exact ⟨b, mem_trace_self km text false _⟩
  | step d d' h ih =>
    rw [trace_of_some h, List.forall_mem_cons] at same
    have taken : d.next? km text false = some d' := same.1.symm.trans h
    have self := mem_trace_self km text false (d.behind acc rest b)
    obtain ⟨b', hb', stepped⟩ := next?_behind acc rest taken hb (limit _ self)
    have trace := trace_of_some stepped
    rw [trace, List.forall_mem_cons] at limit
    obtain ⟨c, reached⟩ := ih hb' limit.2 same.2
    rw [run_of_some h, trace]
    exact ⟨c, List.mem_cons_of_mem _ reached⟩

end Dispatch

end ModalEditing
