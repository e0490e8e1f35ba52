import ModalEditing.Proofs.AskedActions
import ModalEditing.Proofs.PartialCommands
import ModalEditing.Proofs.ShownSelection
import ModalEditing.Proofs.CoveredText

/-! Rejected input. The bell rings in two ways only: the turn fails, or a motion does, which ends a
single Visual command nevertheless. Neither of them changes the text, the column or what is
selected, and nothing of a command is left. -/

namespace ModalEditing

namespace Control

theorem dropCommand_column (c : Control) : c.dropCommand.column = c.column := by
  unfold dropCommand
  simp only
  split <;> rfl

theorem dropCommand_modes {c : Control} (h : c.modes.Sound) :
    c.dropCommand.modes =
      { c.modes with mode := if c.mode.isOperatorPending then .normal else c.mode } := by
  cases pending : c.mode.isOperatorPending with
  | false => rw [dropCommand_of_settled pending, if_neg Bool.false_ne_true, Control.mode]
  | true =>
    have dropped : c.dropCommand = { c with command := {} }.transition .exit := if_pos pending
    obtain ⟨⟨mode, anchor, endRule⟩, command, column⟩ := c
    obtain ⟨next, rfl⟩ : ∃ next, mode = .operatorPending next := by
      cases mode <;> first | contradiction | exact ⟨_, rfl⟩
    obtain rfl : next = .normal := h.base rfl
    obtain rfl : anchor = none := h.unanchored rfl
    rw [dropped]
    rfl

end Control

theorem ModeState.finishCommand_of_settled {s : ModeState} {t : Text} {cursor : Nat} (h : s.Sound)
    (settled : s.mode.isOperatorPending = false) (hc : cursor ≤ t.size) :
    let r := s.finishCommand t cursor
    r = (s, cursor) ∨
      (∃ shape next, s.mode = .visual shape next true ∧ r.1.mode = .select shape next) ∧
        r.1.covered? t r.2 = s.covered? t cursor := by
  have ends : s.mode.after .commandDone = s.mode ∨
      ∃ shape next, s.mode = .visual shape next true := by
    cases mode : s.mode with
    | operatorPending next =>
      rw [mode] at settled
      contradiction
    | visual shape next oneShot =>
      cases oneShot with
      | true => exact Or.inr ⟨shape, next, rfl⟩
      | false => exact Or.inl rfl
    | _ => exact Or.inl rfl
  rcases ends with same | ⟨shape, next, mode⟩
  · refine Or.inl (switch_of_same same ?_ t cursor)
    cases selects : s.mode.hasSelection with
    | true => exact Or.inl rfl
    | false => exact Or.inr (h.unanchored selects)
  · have after : s.mode.after .commandDone = .select shape next := by rw [mode]; rfl
    obtain ⟨anchor, ha⟩ := h.exists_anchor (by rw [mode]; rfl)
    exact Or.inr ⟨⟨shape, next, mode, (switch_mode s .commandDone t cursor).trans after⟩,
      switch_to_select_covers mode after ha hc⟩

namespace Turn

variable {t t' : Turn} {text : Text} {o : Operator} {k : Key}

def rings (t : Turn) : Bool := t.asks (· == .bell)

theorem bell_ignoresMoves : Action.IgnoresMoves (· == .bell) := ⟨fun _ => rfl, fun _ => rfl⟩

theorem fail_of_settled (h : t.mode.isOperatorPending = false) :
    t.fail = { t with command := {} }.emit .bell := by
  rw [fail, Control.dropCommand_of_settled h]

/-- The turn has failed, or a motion has, which counts as a move in spite of it. -/
inductive Fails (text : Text) (t : Turn) : Turn → Prop where
  | failed : Fails text t t.fail
  | unmoved (settled : t.mode.isOperatorPending = false) : Fails text t (t.fail.finishMove text)

theorem Fails.of_eq (h : t' = t.fail) : t.Fails text t' := by
  rw [h]
  exact .failed

theorem runCommand_fails (t : Turn) (text : Text) (c : Command) :
    (t.runCommand text c).rings = t.rings ∨ t.runCommand text c = t.fail := by
  unfold runCommand
  split
  · exact Or.inr rfl
  · simp only
    split
    · exact Or.inr rfl
    · exact Or.inl
        ((asks_moveTo bell_ignoresMoves _ _).trans ((asks_emit _ t _).trans (Bool.or_false _)))

theorem operateOnSelection_rings (h : t.mode.hasSelection) (text : Text) (o : Operator) :
    (t.operateOnSelection text o).rings = t.rings := by
  obtain ⟨x, selection⟩ := exists_selection h
  rw [operateOnSelection_of_selection selection text o, rings, asks_moveTo bell_ignoresMoves]
  simp only [asks_emit, bell_ignoresMoves.selection, Bool.or_false]
  exact Bool.or_false _

theorem entered_fails (t : Turn) (text : Text) (o : Operator) :
    let u := match t.command.enterOperator o with
      | .ok (.waiting b) => { t with command := b }.transition .enterOperatorPending
      | .ok (.complete c) => { t with command := {} }.runCommand text c
      | .error _ => t.fail
    u.rings = t.rings ∨ u = t.fail := by
  cases t.command.enterOperator o with
  | error f => exact Or.inr rfl
  | ok entry =>
    cases entry with
    | waiting b => exact Or.inl rfl
    | complete c => exact runCommand_fails { t with command := {} } text c

theorem operator_fails (t : Turn) (text : Text) (o : Operator) :
    (t.operator text o).rings = t.rings ∨ t.operator text o = t.fail := by
  unfold operator
  split
  · next mode => exact Or.inl (operateOnSelection_rings (by rw [mode]; rfl) text o)
  · exact entered_fails t text o
  · exact entered_fails t text o
  · exact Or.inr rfl

theorem moveBy_fails (t : Turn) (text : Text) (m : Motion) (typed : Option Nat) :
    (t.moveBy text m typed).rings = t.rings ∨ t.moveBy text m typed = t.emit .bell := by
  unfold moveBy
  simp only
  split
  · exact Or.inr rfl
  · exact Or.inl (asks_moveTo bell_ignoresMoves { t with column := t.columnAfter text m } _)

theorem argument_fails (t : Turn) (text : Text) (a : Argument) :
    (t.argument text a).rings = t.rings ∨ t.Fails text (t.argument text a) := by
  let u : Turn := { t with command := {} }
  unfold argument takeCounted
  split
  · rcases runCommand_fails u text (t.command.complete a) with silent | failed
    · exact Or.inl silent
    · exact Or.inr (.of_eq failed)
  · next settled =>
    rw [Bool.not_eq_true] at settled
    simp only
    split
    · next m =>
      rcases moveBy_fails u text m t.command.totalCount with silent | unmoved
      · exact Or.inl ((asks_finishMove bell_ignoresMoves _ text).trans silent)
      · rw [unmoved, ← fail_of_settled settled]
        exact Or.inr (.unmoved settled)
    · exact Or.inl (asks_finishMove bell_ignoresMoves u text)
    · split
      · rw [← fail_of_settled settled]
        exact Or.inr .failed
      · next o _ span _ =>
        exact Or.inl ((asks_finishMove bell_ignoresMoves _ text).trans
          (asks_goTo bell_ignoresMoves u o (span.clamp text.size)))

theorem run_fails {f : Handler} (hm : f.modes.meets t.mode.toModeSet) (text : Text) :
    (t.run text f).rings = t.rings ∨ t.Fails text (t.run text f) := by
  cases f with
  | motion m => exact argument_fails t text _
  | textObject o => exact argument_fails t text _
  | operator o => exact (operator_fails t text o).imp_right .of_eq
  | command c => exact Or.inl (asks_editCommand bell_ignoresMoves t text c)
  | extension f => simp [Handler.modes, ModeSet.meets] at hm

theorem typeChar_rings (t : Turn) (c : Char) : (t.typeChar c).rings = t.rings := by
  unfold typeChar
  simp only
  split <;> exact (asks_emit _ t _).trans (Bool.or_false _)

theorem rubOut_rings (t : Turn) : t.rubOut.rings = t.rings := by
  unfold rubOut
  simp only
  split
  · rfl
  · refine (asks_moveTo bell_ignoresMoves _ _).trans ?_
    split
    · rfl
    · exact (asks_emit _ t _).trans (Bool.or_false _)

theorem insertKey_fails (t : Turn) (k : Key) :
    (t.insertKey k).rings = t.rings ∨ t.insertKey k = t.emit .bell := by
  unfold insertKey
  split
  · exact Or.inl rfl
  · exact Or.inl (rubOut_rings t)
  · split
    · exact Or.inl (typeChar_rings t _)
    · exact Or.inr rfl

theorem replaceSelection_rings (t : Turn) (text : Text) (c : Option Char) :
    (t.replaceSelection text c).rings = t.rings := by
  unfold replaceSelection
  split
  · rfl
  · next x _ =>
    let u := (t.emit (.operate .delete (x.span text) x.shape 1 none)).emit (.setSelection none)
    have silent : u.rings = t.rings :=
      (asks_emit _ _ _).trans ((Bool.or_false _).trans ((asks_emit _ t _).trans (Bool.or_false _)))
    have moved : ((u.transition .enterInsert).moveTo (x.span text).start).rings = t.rings :=
      (asks_moveTo bell_ignoresMoves _ _).trans silent
    cases c with
    | none => exact moved
    | some c => exact (asks_emit _ _ _).trans ((Bool.or_false _).trans moved)

theorem selectKey_fails (t : Turn) (text : Text) (k : Key) :
    (t.selectKey text k).rings = t.rings ∨ t.selectKey text k = t.emit .bell := by
  unfold selectKey
  split
  · exact Or.inl (replaceSelection_rings t text none)
  · split
    · exact Or.inl (replaceSelection_rings t text _)
    · exact Or.inr rfl

theorem Fails.of_idle (h : t.toControl.Agrees) (empty : t.command = {}) :
    t.Fails text (t.emit .bell) := by
  refine .of_eq ?_
  rw [fail_of_settled (h.settled empty), ← empty]

theorem Effect.fails (e : t.Effect text t') (h : t.toControl.Agrees) :
    t'.rings = t.rings ∨ t.Fails text t' := by
  cases e with
  | still => exact Or.inl rfl
  | failed => exact Or.inr .failed
  | dropped => exact Or.inl rfl
  | left empty idle selects =>
    exact Or.inl ((asks_emit _ (t.transition .exit) _).trans (Bool.or_false _))
  | grown commands select grows => exact Or.inl rfl
  | ran meets => exact run_fails meets text
  | typed typing k =>
    rcases insertKey_fails t k with silent | rung
    · exact Or.inl silent
    · rw [rung]
      exact Or.inr (.of_idle h (h.idle (Or.inl typing)))
  | typedOver select k =>
    rcases selectKey_fails t text k with silent | rung
    · exact Or.inl silent
    · rw [rung]
      exact Or.inr (.of_idle h (h.idle (Or.inr select)))

/-- Nothing has been done to the text or to what is selected, and nothing of the command is left.
The mode is the same apart from modes that a command passes through. -/
structure Rejected (text : Text) (t t' : Turn) : Prop where
  unedited : t'.asks Action.editsText = t.asks Action.editsText
  command : t'.command = {}
  column : t'.column = t.column
  covered : t'.modes.covered? text t'.cursor = t.modes.covered? text t.cursor
  modes :
    t'.modes = { t.modes with mode := if t.mode.isOperatorPending then .normal else t.mode } ∧
        t'.cursor = t.cursor ∨
      ∃ shape next, t.mode = .visual shape next true ∧ t'.mode = .select shape next

theorem edits_ignoresMoves : Action.IgnoresMoves Action.editsText := ⟨fun _ => rfl, fun _ => rfl⟩

theorem asks_edits_fail (t : Turn) : t.fail.asks Action.editsText = t.asks Action.editsText :=
  (asks_fail _ t).trans (Bool.or_false _)

theorem fail_rejected (h : t.modes.Sound) (text : Text) : t.Rejected text t.fail where
  unedited := asks_edits_fail t
  command := t.dropCommand_command
  column := t.dropCommand_column
  covered := congrArg (Option.map (Selection.span · text)) (t.dropCommand_selection? t.cursor)
  modes := Or.inl ⟨Control.dropCommand_modes h, rfl⟩

theorem Fails.rejected (f : t.Fails text t') (h : t.modes.Sound) (hc : t.cursor ≤ text.size) :
    t.Rejected text t' := by
  cases f with
  | failed => exact fail_rejected h text
  | unmoved settled =>
    have kept := fail_rejected h text
    have same : t.fail.modes = t.modes := by rw [fail_of_settled settled]; rfl
    have modes := finishMove_modes t.fail text
    have cursor := finishMove_cursor t.fail text
    rw [same] at modes cursor
    have finished := ModeState.finishCommand_of_settled h settled hc
    refine ⟨?_, ?_, ?_, ?_, ?_⟩
    · exact (asks_finishMove edits_ignoresMoves t.fail text).trans kept.unedited
    · exact (finishMove_command t.fail text).trans kept.command
    · exact (finishMove_column t.fail text).trans kept.column
    · rw [modes, cursor]
      rcases finished with still | ⟨_, covered⟩
      · exact congrArg (fun r : ModeState × Nat => r.1.covered? text r.2) still
      · exact covered
    · rcases finished with still | ⟨⟨shape, next, before, after⟩, _⟩
      · refine Or.inl ⟨?_, cursor.trans (congrArg Prod.snd still)⟩
        rw [settled, if_neg Bool.false_ne_true]
        exact modes.trans (congrArg Prod.fst still)
      · exact Or.inr ⟨shape, next, before, (congrArg ModeState.mode modes).trans after⟩

end Turn

theorem Text.applyAll_of_unedited (t : Text) {as : Array Action}
    (h : as.any Action.editsText = false) : t.applyAll as = t := by
  obtain ⟨as⟩ := as
  induction as with
  | nil => rfl
  | cons a as ih =>
    simp only [List.any_toArray, List.any_cons, Bool.or_eq_false_iff] at h ih
    have still := t.apply_still h.1
    simp only [applyAll, List.foldl_toArray, List.foldl_cons, still] at ih ⊢
    exact ih h.2

theorem Turn.rings_iff {t : Turn} : t.rings ↔ Action.bell ∈ t.actions := by
  simp [rings, asks, Array.any_eq_true, Array.mem_iff_getElem]

namespace Editor

variable {e : Editor}

theorem turn_rejected (h : e.Regular) (text : Text) (cursor : Nat) (flush : Bool)
    {queue : List Stroke} (hq : queue.length ≤ 1) (hr : ∀ x ∈ queue, x.remap = true) :
    let d := e.begin text cursor queue
    let d' := d.run .standard text flush
    Action.bell ∈ d'.actions → d'.waiting = [] ∧ d.toTurn.Rejected text d'.toTurn := by
  intro d d' bell
  have quiet : d.toTurn.rings = false := by simp [Turn.rings, Turn.asks, d, begin]
  have undecided : d.Undecided := h.undecided.next_turn rfl rfl rfl hq hr
  rw [← Turn.rings_iff] at bell
  rcases undecided.run_effect text flush with ⟨spent, effect⟩ | ⟨_, same⟩
  · rcases effect.fails h.agrees with silent | fails
    · rw [silent, quiet] at bell
      contradiction
    · exact ⟨spent.waiting, fails.rejected h.agrees.toSound (Nat.min_le_right _ _)⟩
  · rw [show d'.toTurn = d.toTurn from same, quiet] at bell
    contradiction

/-- A call that rings the bell leaves the text, the column and the selected text alone, and nothing
of a command. Operator-pending ends in Normal mode, and a single Visual command may end in Select;
otherwise mode, anchor and cursor stay as they were. -/
theorem rejected_input_changes_nothing (m : LastingMode) (r : EndRule)
    (calls : List (Text × Nat × Call)) {text : Text} {cursor : Nat} (hc : cursor ≤ text.size)
    (c : Call) :
    let e := (starting m r).replay .standard calls
    let a := e.respond .standard text cursor c
    Action.bell ∈ a.actions →
      (∀ x ∈ a.actions, x.editsText = false) ∧ text.applyAll a.actions = text ∧
        a.editor.waiting = [] ∧ a.editor.command = {} ∧ a.editor.column = e.column ∧
        a.editor.modes.covered? text a.cursor = e.modes.covered? text cursor ∧
        (a.editor.modes =
              { e.modes with mode := if e.mode.isOperatorPending then .normal else e.mode } ∧
            a.cursor = cursor ∨
          ∃ shape next, e.mode = .visual shape next true ∧ a.editor.mode = .select shape next) := by
  intro e a bell
  have regular : e.Regular := replay_regular (starting_regular m r) calls
  have place : min cursor text.size = cursor := Nat.min_eq_left hc
  obtain ⟨d', ended, waiting, rejected⟩ : ∃ d' : Dispatch, d'.response = a ∧ d'.waiting = [] ∧
      (e.begin text cursor []).toTurn.Rejected text d'.toTurn := by
    cases c with
    | input i =>
      exact ⟨_, rfl, turn_rejected regular text cursor false (Nat.le_refl 1) (by simp) bell⟩
    | flush => exact ⟨_, rfl, turn_rejected regular text cursor true (Nat.zero_le 1) (by simp) bell⟩
    | abort => exact absurd bell (Array.not_mem_empty _)
  have unedited : a.actions.any Action.editsText = false := by
    rw [← ended]
    exact rejected.unedited.trans (by simp [Turn.asks, begin])
  refine ⟨?_, text.applyAll_of_unedited unedited, ?_⟩
  · intro x hx
    exact Bool.eq_false_iff.2 (Array.any_eq_false'.1 unedited x hx)
  rw [← ended]
  exact ⟨waiting, rejected.command, rejected.column,
    rejected.covered.trans (congrArg (e.modes.covered? text) place),
    rejected.modes.imp_left (And.imp_right fun same => same.trans place)⟩

theorem rejected_input_changes_nothing_one_shot :
    let text := Text.ofString "ab"
    let calls := [(text, 0, Call.input (.key (.plain 'v'))), (text, 0, .input (.key (.ctrl 'g'))),
      (text, 1, .input (.key (.ctrl 'o')))]
    let e := (starting .insert .inclusive).replay .standard ((text, 0, .input (.key .esc)) :: calls)
    let a := e.respond .standard text 0 (.input (.key (.plain 'h')))
    Action.bell ∈ a.actions ∧ text.applyAll a.actions = text ∧
      e.mode = .visual .character .normal true ∧ a.editor.mode = .select .character .normal ∧
      a.cursor = 1 ∧ a.editor.modes.covered? text a.cursor = e.modes.covered? text 0 := by
  intro text calls e a
  have rung : a.actions = #[.bell, .setCursor 1,
      .setSelection (some { anchor := 0, head := 1, shape := .character, exclusive := true })] := by
    cbv
  have bell : Action.bell ∈ a.actions := by simp [rung]
  have nothing :=
    rejected_input_changes_nothing .insert .inclusive ((text, 0, .input (.key .esc)) :: calls)
      (Nat.zero_le text.size) (.input (.key (.plain 'h'))) bell
  exact ⟨bell, nothing.2.1, by cbv, by cbv, by cbv, nothing.2.2.2.2.2.1⟩

end Editor

end ModalEditing
