import ModalEditing.Proofs.BuilderCalls
import ModalEditing.Proofs.StandardDispatch

/-! Commands that are still being typed. With the standard keymap a turn that leaves a command
unfinished has asked the host for nothing, and has changed the command and, for an operator, the
mode. Escape drops what has been typed, and the editor is as it was before the first key. -/

namespace ModalEditing

theorem CommandBuilder.Orderly.grows {b b' : CommandBuilder} (h : b.Orderly)
    (grows : b.Grows b') : b'.Orderly := by
  cases grows with
  | digit pushed => exact h.takes (.digit pushed)
  | quote started => exact h.takes (.startRegister started)
  | name awaits set => exact h.takes (.register set)

theorem Control.Agrees.command_eq {c : Control} (h : c.Agrees) (ho : c.command.Orderly)
    (empty : c.command.isEmpty) : c.command = {} := by
  have idle : c.modes.mode.isOperatorPending = false := by
    rw [Bool.eq_false_iff]
    intro pending
    have awaits := h.awaiting pending
    rw [(CommandBuilder.isEmpty_iff.1 empty).1] at awaits
    contradiction
  exact ho.eq_empty (ModeState.Agrees.operator_eq_none h idle) empty

/-- Nothing has changed from `c` to `c'` but the command being typed, for which an operator may
have started to wait. -/
structure Control.OnlyTyped (c c' : Control) : Prop where
  column : c'.column = c.column
  modes : c'.modes = c.modes ∨
    c.mode = .normal ∧ c'.modes = { c.modes with mode := .operatorPending .normal }
  command : c.command.Orderly → c'.command.Orderly

namespace Control.OnlyTyped

variable {c c' c'' : Control}

theorem refl (c : Control) : c.OnlyTyped c := ⟨rfl, Or.inl rfl, id⟩

theorem trans (h : c.OnlyTyped c') (h' : c'.OnlyTyped c'') : c.OnlyTyped c'' where
  column := h'.column.trans h.column
  modes := by
    rcases h.modes with same | ⟨normal, pending⟩
    · rcases h'.modes with same' | ⟨normal', pending'⟩
      · exact Or.inl (same'.trans same)
      · rw [Control.mode, same] at normal'
        exact Or.inr ⟨normal', by rw [pending', same]⟩
    · rcases h'.modes with same' | ⟨normal', _⟩
      · exact Or.inr ⟨normal, same'.trans pending⟩
      · rw [Control.mode, pending] at normal'
        contradiction
  command := h'.command ∘ h.command

theorem mode (h : c.OnlyTyped c') :
    c'.mode = c.mode ∨ c.mode = .normal ∧ c'.mode = .operatorPending .normal := by
  refine h.modes.imp ?_ (And.imp_right ?_)
  · exact congrArg ModeState.mode
  · exact congrArg ModeState.mode

theorem anchor (h : c.OnlyTyped c') : c'.modes.anchor = c.modes.anchor := by
  rcases h.modes with same | ⟨_, pending⟩
  · rw [same]
  · rw [pending]

theorem dropCommand (h : c.OnlyTyped c') (sound : c.modes.Sound)
    (settled : c.mode.isOperatorPending = false) (empty : c.command = {}) :
    c'.dropCommand = c := by
  obtain ⟨modes, command, column⟩ := c
  obtain ⟨modes', command', column'⟩ := c'
  obtain rfl : column' = column := h.column
  obtain rfl : command = {} := empty
  rcases h.modes with same | ⟨normal, pending⟩
  · obtain rfl : modes' = modes := same
    exact Control.dropCommand_of_settled settled
  · obtain rfl : modes' = { modes with mode := .operatorPending .normal } := pending
    obtain ⟨mode, anchor, endRule⟩ := modes
    obtain rfl : mode = .normal := normal
    obtain rfl : anchor = none := sound.unanchored rfl
    rfl

end Control.OnlyTyped

namespace Turn

structure OnlyTyped (t t' : Turn) : Prop extends t.toControl.OnlyTyped t'.toControl where
  actions : t'.actions = t.actions
  cursor : t'.cursor = t.cursor

variable {t t' : Turn} {text : Text}

theorem OnlyTyped.refl (t : Turn) : t.OnlyTyped t := ⟨.refl _, rfl, rfl⟩

theorem OnlyTyped.of_command {b : CommandBuilder} (h : t.command.Orderly → b.Orderly) :
    t.OnlyTyped { t with command := b } := ⟨⟨rfl, Or.inl rfl, h⟩, rfl, rfl⟩

theorem fail_command (t : Turn) : t.fail.command = {} := t.dropCommand_command

theorem operateOnSelection_command (t : Turn) (text : Text) (o : Operator) :
    (t.operateOnSelection text o).command = {} := by
  unfold operateOnSelection takeCounted
  simp only
  split
  · exact fail_command _
  · rfl

theorem runCommand_command (text : Text) (c : Command) (hc : t.command = {}) :
    (t.runCommand text c).command = {} := by
  unfold runCommand
  split
  · exact fail_command t
  · simp only
    split
    · exact fail_command t
    · exact hc

theorem finishMove_command (t : Turn) (text : Text) :
    (t.finishMove text).command = t.command := by
  unfold finishMove
  simp only
  split <;> simp

theorem argument_command (t : Turn) (text : Text) (a : Argument) :
    (t.argument text a).command = {} := by
  unfold argument takeCounted
  split
  · exact runCommand_command text _ rfl
  · simp only
    split
    · rw [finishMove_command, moveBy_command]
    · rw [finishMove_command]
    · split
      · rfl
      · rw [finishMove_command, goTo_command]

theorem runEditCommand_command (t : Turn) (text : Text) (c : EditCommand) :
    (t.runEditCommand text c).command = t.command := by
  cases c with
  | enterSelect shape =>
    unfold runEditCommand
    simp only
    split <;> rfl
  | toggleSelectVisual => simp [runEditCommand]
  | singleVisualCommand => simp [runEditCommand]
  | _ => rfl

theorem editCommand_command (t : Turn) (text : Text) (c : EditCommand) :
    (t.editCommand text c).command = {} := by
  have ran := runEditCommand_command { t with command := {} } text c
  unfold editCommand
  simp only
  split
  · exact ran
  · exact ran

theorem enterPending_modes (h : t.modes.Sound) (normal : t.mode = .normal) :
    (t.transition .enterOperatorPending).modes =
      { t.modes with mode := .operatorPending .normal } := by
  have mode : t.modes.mode = .normal := normal
  have unanchored : t.modes.anchor = none := h.unanchored (by rw [mode]; rfl)
  simp [transition, Control.transition, ModeState.transition, mode, unanchored, Mode.after,
    Mode.base]

theorem operator_typed (text : Text) (o : Operator) (h : t.toControl.Agrees) :
    (t.operator text o).command = {} ∨ t.OnlyTyped (t.operator text o) := by
  unfold operator
  split
  · exact Or.inl (operateOnSelection_command t text o)
  · next normal =>
    cases entered : t.command.enterOperator o with
    | error f => exact Or.inl (fail_command t)
    | ok entry =>
      cases entry with
      | complete c => exact Or.inl (runCommand_command text c rfl)
      | waiting b =>
        have orderly : t.command.Orderly → b.Orderly := fun h => h.takes (.operator entered)
        have modes := enterPending_modes (t := { t with command := b }) h.toSound normal
        exact Or.inr ⟨⟨rfl, Or.inr ⟨normal, modes⟩, orderly⟩, rfl, rfl⟩
  · next pending =>
    cases entered : t.command.enterOperator o with
    | error f => exact Or.inl (fail_command t)
    | ok entry =>
      cases entry with
      | complete c => exact Or.inl (runCommand_command text c rfl)
      | waiting b =>
        -- an operator waits already, and a second one is no command
        have waits : t.command.operator.isSome := by
          rw [h.operator]
          exact congrArg Mode.isOperatorPending pending
        rw [(CommandBuilder.eq_of_enterOperator entered).1] at waits
        contradiction
  · exact Or.inl (fail_command t)

theorem run_typed (text : Text) (f : Handler) (h : t.toControl.Agrees)
    (hm : f.modes.meets t.mode.toModeSet) :
    (t.run text f).command = {} ∨ t.OnlyTyped (t.run text f) := by
  cases f with
  | motion m => exact Or.inl (argument_command t text _)
  | textObject o => exact Or.inl (argument_command t text _)
  | operator o => exact operator_typed text o h
  | command c => exact Or.inl (editCommand_command t text c)
  | extension f => simp [Handler.modes, ModeSet.meets] at hm

theorem insertKey_command (t : Turn) (k : Key) : (t.insertKey k).command = t.command := by
  unfold insertKey
  split
  · rfl
  · rw [rubOut_toControl]
  · split
    · rw [typeChar_toControl]
    · rfl

theorem replaceSelection_command (t : Turn) (text : Text) (c : Option Char) :
    (t.replaceSelection text c).command = t.command := by
  unfold replaceSelection
  split
  · rfl
  · cases c <;> rfl

theorem selectKey_command (t : Turn) (text : Text) (k : Key) :
    (t.selectKey text k).command = t.command := by
  unfold selectKey
  split
  · exact replaceSelection_command t text none
  · split
    · exact replaceSelection_command t text _
    · rfl

end Turn

theorem Turn.Effect.onlyTyped {t t' : Turn} {text : Text} (e : t.Effect text t')
    (h : t.toControl.Agrees) (ho : t.command.Orderly) : t'.command = {} ∨ t.OnlyTyped t' := by
  cases e with
  | still => exact Or.inr (.refl t)
  | failed => exact Or.inl (Turn.fail_command t)
  | dropped => exact Or.inl t.dropCommand_command
  | left empty idle selects => exact Or.inl (h.command_eq ho empty)
  | grown commands select grows => exact Or.inr (.of_command fun orderly => orderly.grows grows)
  | ran meets => exact Turn.run_typed text _ h meets
  | typed typing k =>
    exact Or.inl ((Turn.insertKey_command t k).trans (h.idle (Or.inl typing)))
  | typedOver select k =>
    exact Or.inl ((Turn.selectKey_command t text k).trans (h.idle (Or.inr select)))

namespace Dispatch

variable {text : Text} {flush : Bool} {d d' : Dispatch}

theorem intercept?_esc {k : Key} (hk : k.code = .esc) (commands : d.mode.isTyping = false) :
    d.intercept? k = some d.escape := by
  rw [intercept?, if_neg (Bool.eq_false_iff.1 commands), if_pos hk]

/-- Where a turn from `t` with the standard keymap has got to: until a handler has been found it
stands still, and then nothing is left of the command, or nothing has been done but typed. -/
structure Typing (t : Turn) (d : Dispatch) : Prop where
  agrees : d.toControl.Agrees
  orderly : d.command.Orderly
  resolves : d.Spent ∧ (d.command = {} ∨ t.OnlyTyped d.toTurn) ∨ d.Undecided ∧ d.toTurn = t

theorem Undecided.run_typing (h : d.Undecided) (agrees : d.toControl.Agrees)
    (orderly : d.command.Orderly) (text : Text) (flush : Bool) :
    (d.run Keymap.standard text flush).Typing d.toTurn := by
  rcases h.run_effect text flush with ⟨spent, effect⟩ | ⟨still, same⟩
  · have typed := effect.onlyTyped agrees orderly
    refine ⟨effect.agrees agrees, ?_, Or.inl ⟨spent, typed⟩⟩
    rcases typed with done | only
    · rw [done]
      exact CommandBuilder.orderly_empty
    · exact only.command orderly
  · exact ⟨same ▸ agrees, same ▸ orderly, Or.inr ⟨still, same⟩⟩

end Dispatch

namespace Editor

def isPartial (e : Editor) : Bool :=
  e.waiting != [] || !e.command.isEmpty || e.mode.isOperatorPending

structure Regular (e : Editor) : Prop where
  agrees : e.toControl.Agrees
  orderly : e.command.Orderly
  undecided : (e.begin #[] 0 []).Undecided

variable {e e' : Editor}

theorem starting_regular (m : LastingMode) (r : EndRule) : (starting m r).Regular where
  agrees := starting_agrees m r
  orderly := CommandBuilder.orderly_empty
  undecided := Dispatch.undecided_of_idle rfl rfl

theorem response_regular {t : Turn} {d : Dispatch} (h : d.Typing t) (hq : d.queue = []) :
    d.response.editor.Regular where
  agrees := h.agrees
  orderly := h.orderly
  undecided := Dispatch.undecided_of_ended (h.resolves.imp And.left And.left) hq _ _

theorem not_partial_of_done (h : e.toControl.Agrees) (hw : e.waiting = []) (hc : e.command = {}) :
    e.isPartial = false := by
  have idle : e.mode.isOperatorPending = false := h.settled hc
  simp [isPartial, hw, hc, idle, CommandBuilder.isEmpty]

theorem response_typed {t : Turn} {d : Dispatch} (h : d.Typing t)
    (partly : d.response.editor.isPartial) : t.OnlyTyped d.toTurn := by
  rcases h.resolves with ⟨spent, done | typed⟩ | ⟨_, same⟩
  · have idle := not_partial_of_done (e := d.response.editor) h.agrees spent.waiting done
    rw [idle] at partly
    contradiction
  · exact typed
  · rw [same]
    exact .refl t

theorem turn_regular (h : e.Regular) (text : Text) (cursor : Nat) (flush : Bool)
    {queue : List Stroke} (hq : queue.length ≤ 1) (hr : ∀ x ∈ queue, x.remap = true) :
    let r := ((e.begin text cursor queue).run .standard text flush).response
    r.editor.Regular ∧
      (r.editor.isPartial → r.actions = #[] ∧ r.cursor = min cursor text.size ∧
        e.toControl.OnlyTyped r.editor.toControl) := by
  have undecided : (e.begin text cursor queue).Undecided :=
    h.undecided.next_turn rfl rfl rfl hq hr
  have typing := undecided.run_typing h.agrees h.orderly text flush
  have ended := Dispatch.next?_run .standard text flush (e.begin text cursor queue)
  refine ⟨response_regular typing (Dispatch.next?_eq_none_iff.1 ended).1, ?_⟩
  intro partly
  have typed := response_typed typing partly
  exact ⟨typed.actions, typed.cursor, typed.toOnlyTyped⟩

theorem respond_regular (h : e.Regular) (text : Text) (cursor : Nat) (c : Call) :
    let r := e.respond .standard text cursor c
    r.editor.Regular ∧
      (r.editor.isPartial → r.actions = #[] ∧ r.cursor = min cursor text.size ∧
        e.toControl.OnlyTyped r.editor.toControl) := by
  cases c with
  | input i => exact turn_regular h text cursor false (Nat.le_refl 1) (by simp)
  | flush => exact turn_regular h text cursor true (Nat.zero_le 1) (by simp)
  | abort =>
    have agrees := Control.dropCommand_agrees h.agrees.toSound
    have command : e.dropCommand.command = {} := e.dropCommand_command
    refine ⟨⟨agrees, ?_, Dispatch.undecided_of_idle rfl rfl⟩, ?_⟩
    · exact command ▸ CommandBuilder.orderly_empty
    · intro partly
      have idle : e.abort.isPartial = false := not_partial_of_done agrees rfl command
      exact absurd (partly : e.abort.isPartial = true) (Bool.eq_false_iff.1 idle)

theorem replay_regular (h : e.Regular) (calls : List (Text × Nat × Call)) :
    (e.replay .standard calls).Regular := by
  induction calls generalizing e with
  | nil => exact h
  | cons call calls ih => exact ih (respond_regular h _ _ _).1

def StaysPartial (km : Keymap) (e : Editor) : List (Text × Nat × Call) → Prop
  | [] => True
  | (text, cursor, c) :: calls =>
    let e' := (e.respond km text cursor c).editor
    e'.isPartial ∧ e'.StaysPartial km calls

theorem partial_of_stays {calls : List (Text × Nat × Call)} {km : Keymap} (some_call : calls ≠ [])
    (h : e.StaysPartial km calls) : (e.replay km calls).isPartial := by
  induction calls generalizing e with
  | nil => contradiction
  | cons call calls ih =>
    obtain ⟨partly, stays⟩ := h
    by_cases last : calls = []
    · subst last
      exact partly
    · exact ih last stays

theorem typed_of_stays {calls : List (Text × Nat × Call)} (h : e.Regular)
    (stays : e.StaysPartial .standard calls) :
    e.toControl.OnlyTyped (e.replay .standard calls).toControl := by
  induction calls generalizing e with
  | nil => exact .refl _
  | cons call calls ih =>
    obtain ⟨partly, stays⟩ := stays
    obtain ⟨regular, typed⟩ := respond_regular h call.1 call.2.1 call.2.2
    exact (typed partly).2.2.trans (ih regular stays)

theorem respond_esc {km : Keymap} {text : Text} {cursor : Nat} {k : Key} (hk : k.code = .esc)
    (commands : e.mode.isTyping = false) (partly : e.isPartial) (hc : cursor ≤ text.size) :
    e.respond km text cursor (.input (.key k)) = { editor := e.abort, cursor, actions := #[] } := by
  have caught : (e.begin text cursor []).intercept? k.normalize =
      some (e.begin text cursor []).escape :=
    Dispatch.intercept?_esc (k.normalize_code.trans hk) commands
  have dropped : (e.begin text cursor []).escape =
      { e.begin text cursor [] with toControl := e.dropCommand, waiting := [] } := by
    rw [isPartial, Bool.or_eq_true, Bool.or_eq_true, bne_iff_ne, Bool.not_eq_true', or_assoc,
      ← Bool.not_eq_true] at partly
    exact if_pos partly
  rw [respond, handle, Input.toKey, Dispatch.run_of_caught rfl caught, dropped]
  simp [Dispatch.response, abort, begin, hc]

theorem abort_of_typed (h : e.Regular) (idle : e.isPartial = false)
    (typed : e.toControl.OnlyTyped e'.toControl) : e'.abort = e := by
  simp only [isPartial, Bool.or_eq_false_iff, bne_eq_false_iff_eq, Bool.not_eq_false'] at idle
  obtain ⟨⟨waiting, empty⟩, settled⟩ := idle
  have command := h.agrees.command_eq h.orderly empty
  rw [abort, typed.dropCommand h.agrees.toSound settled command, ← waiting]

/-- A call that leaves something partial has asked the host for nothing, and has changed no more
than what is being typed. Escape after any number of these leads back to the editor before. -/
theorem partial_commands_undone (m : LastingMode) (r : EndRule) (calls : List (Text × Nat × Call)) :
    let e := (starting m r).replay .standard calls
    (∀ text cursor c, cursor ≤ text.size →
      let a := e.respond .standard text cursor c
      a.editor.isPartial →
        a.actions = #[] ∧ a.cursor = cursor ∧ a.editor.modes.anchor = e.modes.anchor ∧
          a.editor.column = e.column ∧
          (a.editor.mode = e.mode ∨
            e.mode = .normal ∧ a.editor.mode = .operatorPending .normal)) ∧
    (e.isPartial = false → e.mode = .normal ∨ e.mode.isVisual →
      ∀ typed, typed ≠ [] → e.StaysPartial .standard typed →
      ∀ text cursor k, cursor ≤ text.size → k.code = .esc →
        (e.replay .standard typed).respond .standard text cursor (.input (.key k)) =
          { editor := e, cursor, actions := #[] }) := by
  intro e
  have regular : e.Regular := replay_regular (starting_regular m r) calls
  constructor
  · intro text cursor c hc a partly
    obtain ⟨actions, place, typed⟩ := (respond_regular regular text cursor c).2 partly
    rw [Nat.min_eq_left hc] at place
    exact ⟨actions, place, typed.anchor, typed.column, typed.mode⟩
  · intro idle mode typed some_call stays text cursor k hc hk
    have only := typed_of_stays regular stays
    have commands : (e.replay .standard typed).mode.isTyping = false := by
      rcases only.mode with same | ⟨_, pending⟩
      · rw [same]
        rcases mode with normal | visual
        · rw [normal]
          rfl
        · obtain ⟨shape, next, oneShot, mode⟩ := Mode.isVisual_iff.1 visual
          rw [mode]
          rfl
      · rw [pending]
        rfl
    rw [respond_esc hk commands (partial_of_stays some_call stays) hc,
      abort_of_typed regular idle only]

theorem partial_commands_undone_counted :
    let e := starting .normal .inclusive
    let text := Text.ofString "one two"
    let typed := ['"', 'a', '3', 'd', 'g'].map fun c => (text, 4, Call.input (.key (.plain c)))
    (e.respond .standard text 4 (.input (.key (.plain 'd')))).actions = #[] ∧
      e.StaysPartial .standard typed ∧
      (e.replay .standard typed).mode = .operatorPending .normal ∧
      (e.replay .standard typed).respond .standard text 4 (.input (.key .esc)) =
        { editor := e, cursor := 4, actions := #[] } := by
  intro e text typed
  have undone := partial_commands_undone .normal .inclusive []
  have stays : e.StaysPartial .standard typed := by
    refine ⟨?_, ?_, ?_, ?_, ?_, trivial⟩ <;> cbv
  refine ⟨?_, stays, ?_, ?_⟩
  · exact (undone.1 text 4 (.input (.key (.plain 'd'))) (by decide) (by cbv)).1
  · cbv
  · exact undone.2 rfl (Or.inl rfl) typed (List.cons_ne_nil _ _) stays text 4 .esc (by decide) rfl

end Editor

end ModalEditing
