import Mathlib
import ModalEditing.Proofs.BuilderCalls
import ModalEditing.Proofs.DispatchSteps
import ModalEditing.Proofs.SettingsTable

/-! Mode, anchor and command being typed agree with one another. There is an anchor exactly
where there is a selection, an operator exactly while one waits, and nothing typed where keys
are no commands. Every step of a turn keeps this, so every call of an editor does. -/

namespace ModalEditing

namespace Mode

variable {m : Mode}

theorem hasSelection_eq (m : Mode) : m.hasSelection = (m.isVisual || m.isSelect) := by
  cases m <;> rfl

theorem isVisual_iff : m.isVisual ↔ ∃ shape next oneShot, m = .visual shape next oneShot := by
  cases m <;> simp [isVisual]

theorem isSelect_iff : m.isSelect ↔ ∃ shape next, m = .select shape next := by
  cases m <;> simp [isSelect]

theorem hasSelection_of_visual (h : m.isVisual) : m.hasSelection := by
  rw [hasSelection_eq, h, Bool.true_or]

theorem hasSelection_of_select (h : m.isSelect) : m.hasSelection := by
  rw [hasSelection_eq, h, Bool.or_true]

theorem toModeSet_of_visual (h : m.isVisual) : m.toModeSet = { visual := true } := by
  obtain ⟨shape, next, oneShot, rfl⟩ := isVisual_iff.1 h
  rfl

theorem not_typing_of_select (h : m.isSelect) : m.isTyping = false := by
  obtain ⟨shape, next, rfl⟩ := isSelect_iff.1 h
  rfl

theorem meets_normal (h : ({ normal := true } : ModeSet).meets m.toModeSet) : m = .normal := by
  cases m <;> simp_all [toModeSet, ModeSet.meets]

theorem meets_visual (h : ({ visual := true } : ModeSet).meets m.toModeSet) : m.isVisual := by
  cases m <;> simp_all [toModeSet, ModeSet.meets, isVisual]

theorem meets_normal_visual
    (h : ({ normal := true, visual := true } : ModeSet).meets m.toModeSet) :
    m = .normal ∨ m.isVisual := by
  cases m <;> simp_all [toModeSet, ModeSet.meets, isVisual]

theorem meets_selecting (h : ModeSet.selecting.meets m.toModeSet) : m.hasSelection := by
  cases m <;> simp_all [ModeSet.selecting, toModeSet, ModeSet.meets, hasSelection, shape?]

theorem not_pending_of_hasSelection (h : m.hasSelection) : m.isOperatorPending = false := by
  cases m <;> simp_all [hasSelection, shape?, isOperatorPending]

theorem after_keeps {e : ModeEvent}
    (he : e = .commandDone ∨ e = .toggleSelectVisual ∨ e = .singleVisualCommand)
    (hm : m.isOperatorPending = false) :
    (m.after e).hasSelection = m.hasSelection ∧ (m.after e).isTyping = m.isTyping ∧
      (m.after e).base = m.base ∧ (m.after e).isOperatorPending = false := by
  rcases he with rfl | rfl | rfl
  all_goals
    cases m with
    | visual shape next oneShot =>
      cases oneShot <;> simp [after, hasSelection, shape?, isTyping, base, isOperatorPending]
    | operatorPending next => simp [isOperatorPending] at hm
    | _ => simp [after, hasSelection, shape?, isTyping, base, isOperatorPending]

end Mode

namespace LastingMode

variable (m : LastingMode)

@[simp] theorem toMode_hasSelection : m.toMode.hasSelection = false := by cases m <;> rfl

@[simp] theorem toMode_isOperatorPending : m.toMode.isOperatorPending = false := by cases m <;> rfl

theorem toMode_base (h : m.toMode.isTyping = false) : m.toMode.base = .normal := by
  cases m with
  | normal => rfl
  | insert => contradiction
  | replace => contradiction

end LastingMode

namespace ModeState

structure Sound (s : ModeState) : Prop where
  anchor : s.anchor.isSome = s.mode.hasSelection
  base : s.mode.isTyping = false → s.mode.base = .normal

/-- The command being typed fits the mode as well. -/
structure Agrees (s : ModeState) (b : CommandBuilder) : Prop extends s.Sound where
  operator : b.operator.isSome = s.mode.isOperatorPending
  awaiting : s.mode.isOperatorPending → b.stage = .awaitingArgument
  idle : s.mode.isTyping ∨ s.mode.isSelect → b = {}

variable {s : ModeState} {e : ModeEvent} {b : CommandBuilder}

theorem Sound.agrees (h : s.Sound) (hm : s.mode.isOperatorPending = false) : s.Agrees {} where
  toSound := h
  operator := hm.symm
  awaiting := fun pending => absurd (pending.symm.trans hm) (by simp)
  idle := fun _ => rfl

theorem Sound.unanchored (h : s.Sound) (hs : s.mode.hasSelection = false) : s.anchor = none :=
  Option.not_isSome_iff_eq_none.1 (Bool.eq_false_iff.1 (h.anchor.trans hs))

theorem Sound.exists_anchor (h : s.Sound) (hs : s.mode.hasSelection) : ∃ a, s.anchor = some a :=
  Option.isSome_iff_exists.1 (h.anchor.trans hs)

theorem Agrees.operator_eq_none (h : s.Agrees b) (hm : s.mode.isOperatorPending = false) :
    b.operator = none :=
  Option.not_isSome_iff_eq_none.1 (Bool.eq_false_iff.1 (h.operator.trans hm))

theorem transition_sound (ha : (s.mode.after e).hasSelection → s.anchor.isSome)
    (hb : (s.mode.after e).isTyping = false → (s.mode.after e).base = .normal) :
    (s.transition e).Sound where
  anchor := by
    unfold transition
    simp only
    split
    · next selects => rw [ha selects, selects]
    · next selects => simp [Bool.eq_false_iff.2 selects]
  base := hb

theorem Agrees.typed {b' : CommandBuilder} (h : s.Agrees b) (hm : s.mode.isTyping = false)
    (hs : s.mode.isSelect = false) (ho : b'.operator = b.operator)
    (hw : s.mode.isOperatorPending → b'.stage = .awaitingArgument) : s.Agrees b' where
  toSound := h.toSound
  operator := by rw [ho, h.operator]
  awaiting := hw
  idle := by simp [hm, hs]

theorem Agrees.grows {b' : CommandBuilder} (h : s.Agrees b) (hm : s.mode.isTyping = false)
    (hs : s.mode.isSelect = false) (grows : b.Grows b') : s.Agrees b' := by
  cases grows with
  | digit pushed =>
    obtain ⟨n, rfl⟩ := CommandBuilder.exists_eq_of_pushDigit? pushed
    refine h.typed hm hs rfl ?_
    intro pending
    exact if_pos (h.awaiting pending)
  | quote started =>
    obtain ⟨free, rfl⟩ := CommandBuilder.eq_of_startRegister? started
    refine h.typed hm hs rfl ?_
    intro pending
    have waits := h.operator.trans pending
    rw [free] at waits
    contradiction
  | name awaits set =>
    obtain rfl := CommandBuilder.eq_of_setRegister set
    refine h.typed hm hs rfl ?_
    intro pending
    simp [CommandBuilder.isAwaitingRegister, h.awaiting pending] at awaits

theorem transition_lasting {m : LastingMode} (h : s.mode.after e = m.toMode) :
    (s.transition e).Agrees {} := by
  refine Sound.agrees (transition_sound ?_ ?_) ?_
  · simp [h]
  · rw [h]
    exact m.toMode_base
  · simp [transition, h]

theorem exit_agrees (hs : s.mode.isTyping = false → s.mode.base = .normal)
    (hb : b.operator = none) : (s.transition .exit).Agrees b := by
  have normal : s.mode.after .exit = LastingMode.normal.toMode := by
    cases hm : s.mode <;> simp_all [Mode.after, Mode.base, Mode.isTyping, LastingMode.toMode]
  have lasting := transition_lasting normal
  have mode : (s.transition .exit).mode = .normal := normal
  refine ⟨lasting.toSound, ?_, ?_, ?_⟩
  · simp [hb, mode, Mode.isOperatorPending]
  · simp [mode, Mode.isOperatorPending]
  · simp [mode, Mode.isTyping, Mode.isSelect]

theorem switch_mode (s : ModeState) (e : ModeEvent) (t : Text) (cursor : Nat) :
    (s.switch e t cursor).1.mode = s.mode.after e := by
  unfold switch
  simp only
  split
  · split
    · split
      · unfold widen
        split <;> rfl
      · split
        · unfold narrow
          split
          · rfl
          · split <;> rfl
        · rfl
    · rfl
  · rfl

theorem switch_anchor (s : ModeState) (e : ModeEvent) (t : Text) (cursor : Nat) :
    (s.switch e t cursor).1.anchor.isSome = (s.transition e).anchor.isSome := by
  unfold switch
  simp only
  split
  · split
    · split
      · unfold widen
        split <;> simp_all
      · split
        · unfold narrow
          split
          · rfl
          · split <;> simp_all
        · rfl
    · rfl
  · rfl

theorem switch_agrees (t : Text) (cursor : Nat) (h : s.Sound)
    (hm : s.mode.isOperatorPending = false)
    (he : e = .commandDone ∨ e = .toggleSelectVisual ∨ e = .singleVisualCommand) :
    (s.switch e t cursor).1.Agrees {} := by
  obtain ⟨selects, typing, base, pending⟩ := Mode.after_keeps he hm
  have moved : (s.transition e).Sound := by
    refine transition_sound ?_ ?_
    · rw [selects, h.anchor]
      exact id
    · rw [typing, base]
      exact h.base
  refine Sound.agrees ⟨?_, ?_⟩ ?_
  · rw [switch_anchor, switch_mode, moved.anchor]
    rfl
  · rw [switch_mode]
    exact moved.base
  · rw [switch_mode]
    exact pending

theorem toggleVisual_agrees (shape : Shape) (cursor : Nat) (h : s.Sound)
    (hm : s.mode = .normal ∨ s.mode.isVisual) : (s.toggleVisual shape cursor).Agrees {} := by
  unfold toggleVisual
  rcases hm with hm | hm
  · have visual : s.mode.after (.toggleVisual shape) = .visual shape .normal false := by
      rw [hm]
      rfl
    simp only [transition, visual]
    rw [if_pos ⟨rfl, by rw [hm]; exact Bool.false_ne_true⟩]
    exact Sound.agrees ⟨rfl, fun _ => rfl⟩ rfl
  · obtain ⟨current, next, oneShot, hm⟩ := Mode.isVisual_iff.1 hm
    obtain rfl : next = .normal := by simpa [hm, Mode.isTyping, Mode.base] using h.base
    have selects : s.mode.hasSelection := by rw [hm]; rfl
    simp only
    rw [if_neg fun fresh => fresh.2 selects]
    by_cases same : current = shape
    · exact transition_lasting (m := .normal) (by simp [hm, Mode.after, same])
    · have visual : s.mode.after (.toggleVisual shape) = .visual shape .normal oneShot := by
        simp [hm, Mode.after, same]
      refine Sound.agrees (transition_sound ?_ ?_) ?_
      · rw [h.anchor]
        exact fun _ => selects
      · rw [visual]
        exact fun _ => rfl
      · simp [transition, visual, Mode.isOperatorPending]

theorem enterSelect_agrees (shape : Shape) (cursor : Nat) (hm : s.mode = .normal) :
    (s.enterSelect shape cursor).Agrees {} := by
  have select : s.mode.after (.enterSelect shape) = .select shape .normal := by rw [hm]; rfl
  unfold enterSelect
  simp only [transition, select]
  rw [if_neg (by rw [hm]; exact Bool.false_ne_true)]
  exact Sound.agrees ⟨rfl, fun _ => rfl⟩ rfl

theorem swapEnds_agrees (cursor : Nat) (h : s.Sound) (hm : s.mode.isOperatorPending = false) :
    (s.swapEnds cursor).1.Agrees {} := by
  refine Sound.agrees ⟨?_, ?_⟩ ?_
  all_goals
    unfold swapEnds
    split
  · next anchor at_anchor => rw [← h.anchor, at_anchor]; rfl
  · exact h.anchor
  · exact h.base
  · exact h.base
  · exact hm
  · exact hm

theorem setSelection_sound (anchor : Nat) (shape : Shape) (h : s.Sound)
    (hm : s.mode.isVisual) : (s.setSelection anchor shape).Sound := by
  obtain ⟨current, next, oneShot, hm⟩ := Mode.isVisual_iff.1 hm
  unfold setSelection
  simp only [hm]
  refine ⟨rfl, ?_⟩
  simpa [hm, Mode.isTyping, Mode.base] using h.base

end ModeState

def Control.Agrees (c : Control) : Prop := c.modes.Agrees c.command

theorem Control.Agrees.settled {c : Control} (h : c.Agrees) (hc : c.command = {}) :
    c.mode.isOperatorPending = false :=
  h.operator.symm.trans (by rw [hc]; rfl)

theorem Control.dropCommand_agrees {c : Control} (h : c.modes.Sound) : c.dropCommand.Agrees := by
  unfold dropCommand
  simp only
  split
  · exact ModeState.exit_agrees h.base rfl
  · next idle => exact h.agrees (Bool.eq_false_iff.2 idle)

namespace Turn

variable {t : Turn} {text : Text}

@[simp] theorem emit_toControl (t : Turn) (a : Action) : (t.emit a).toControl = t.toControl := rfl

@[simp] theorem moveTo_toControl (t : Turn) (p : Nat) : (t.moveTo p).toControl = t.toControl := rfl

@[simp] theorem settleAt_toControl (t : Turn) (p : Nat) :
    (t.settleAt p).toControl = t.toControl := by
  unfold settleAt
  split <;> rfl

@[simp] theorem showSelection_toControl (t : Turn) : t.showSelection.toControl = t.toControl := rfl

@[simp] theorem withModes_toControl (t : Turn) (change : ModeState × Nat) :
    (t.withModes change).toControl = { t.toControl with modes := change.1 } := by
  rw [withModes, settleAt_toControl]

theorem withModes_cursor (t : Turn) (change : ModeState × Nat) :
    (t.withModes change).cursor = change.2 := by
  unfold withModes settleAt
  split
  · next same => exact same.symm
  · rfl

theorem fail_agrees (h : t.modes.Sound) : t.fail.toControl.Agrees :=
  Control.dropCommand_agrees h

theorem leaveAfter_agrees (o : Operator) (h : t.modes.Sound) (hc : t.command = {}) :
    (t.leaveAfter o).toControl.Agrees := by
  have empty : (t.leaveAfter o).command = {} := hc
  rw [Control.Agrees, empty]
  unfold leaveAfter
  split
  · exact ModeState.transition_lasting (m := .insert) rfl
  · exact ModeState.exit_agrees h.base rfl

theorem operateOnSelection_agrees (text : Text) (o : Operator) (h : t.modes.Sound) :
    (t.operateOnSelection text o).toControl.Agrees := by
  unfold operateOnSelection takeCounted
  simp only
  split
  · exact fail_agrees h
  · exact leaveAfter_agrees o h rfl

theorem runCommand_agrees (text : Text) (c : Command) (h : t.modes.Sound) (hc : t.command = {}) :
    (t.runCommand text c).toControl.Agrees := by
  unfold runCommand
  split
  · exact fail_agrees h
  · simp only
    split
    · exact fail_agrees h
    · exact leaveAfter_agrees (t := t.emit _) _ h hc

theorem entered_agrees (text : Text) (o : Operator) (h : t.toControl.Agrees)
    (hm : t.mode.isTyping = false) :
    (match t.command.enterOperator o with
      | .ok (.waiting b) => { t with command := b }.transition .enterOperatorPending
      | .ok (.complete c) => { t with command := {} }.runCommand text c
      | .error _ => t.fail).toControl.Agrees := by
  cases ho : t.command.operator with
  | none =>
    rw [CommandBuilder.enterOperator_of_none ho]
    refine ⟨⟨rfl, fun _ => h.base hm⟩, rfl, fun _ => rfl, ?_⟩
    rintro (typing | select)
    · contradiction
    · contradiction
  | some p =>
    by_cases same : p = o
    · rw [same] at ho
      rw [CommandBuilder.enterOperator_of_same ho]
      exact runCommand_agrees text _ h.toSound rfl
    · rw [CommandBuilder.enterOperator_of_other ho same]
      exact fail_agrees h.toSound

theorem operator_agrees (text : Text) (o : Operator) (h : t.toControl.Agrees) :
    (t.operator text o).toControl.Agrees := by
  unfold operator
  split
  · exact operateOnSelection_agrees text o h.toSound
  · next mode => exact entered_agrees text o h (by rw [mode]; rfl)
  · next mode => exact entered_agrees text o h (by rw [mode]; rfl)
  · exact fail_agrees h.toSound

theorem moveBy_modes (t : Turn) (text : Text) (m : Motion) (typed : Option Nat) :
    (t.moveBy text m typed).modes = t.modes := by
  unfold moveBy
  simp only
  split <;> rfl

theorem moveBy_command (t : Turn) (text : Text) (m : Motion) (typed : Option Nat) :
    (t.moveBy text m typed).command = t.command := by
  unfold moveBy
  simp only
  split <;> rfl

theorem switched_agrees {e : ModeEvent} (text : Text) (p : Nat) (h : t.modes.Sound)
    (hc : t.command = {}) (hm : t.mode.isOperatorPending = false)
    (he : e = .commandDone ∨ e = .toggleSelectVisual ∨ e = .singleVisualCommand) :
    (t.withModes (t.modes.switch e text p)).toControl.Agrees := by
  rw [withModes_toControl, Control.Agrees, hc]
  exact ModeState.switch_agrees text p h hm he

theorem finishMove_modes (t : Turn) (text : Text) :
    (t.finishMove text).modes = (t.modes.finishCommand text t.cursor).1 := by
  unfold finishMove
  simp only
  split <;> simp

theorem finishMove_mode (t : Turn) (text : Text) :
    (t.finishMove text).mode = t.mode.after .commandDone := by
  rw [Control.mode, finishMove_modes]
  exact ModeState.switch_mode t.modes .commandDone text t.cursor

theorem finishMove_cursor (t : Turn) (text : Text) :
    (t.finishMove text).cursor = (t.modes.finishCommand text t.cursor).2 := by
  unfold finishMove
  simp only
  split <;> exact withModes_cursor _ _

theorem finishMove_column (t : Turn) (text : Text) : (t.finishMove text).column = t.column := by
  unfold finishMove
  simp only
  split <;> simp

theorem finishMove_agrees (text : Text) (h : t.modes.Sound) (hc : t.command = {})
    (hm : t.mode.isOperatorPending = false) : (t.finishMove text).toControl.Agrees := by
  have finished := switched_agrees text t.cursor h hc hm (Or.inl rfl)
  unfold finishMove
  simp only
  split
  · exact finished
  · exact finished

theorem goTo_sound (o : TextObject) (span : Span) (h : t.modes.Sound) :
    (t.goTo o span).modes.Sound := by
  unfold goTo
  simp only
  split
  · next mode =>
    rw [Control.mode] at mode
    exact ModeState.setSelection_sound _ _ h (by rw [mode]; rfl)
  · exact h

theorem goTo_command (t : Turn) (o : TextObject) (span : Span) :
    (t.goTo o span).command = t.command := by
  unfold goTo
  simp only
  split <;> rfl

theorem goTo_pending (t : Turn) (o : TextObject) (span : Span) :
    (t.goTo o span).mode.isOperatorPending = t.mode.isOperatorPending := by
  unfold goTo
  simp only
  split
  · next mode =>
    rw [Control.mode] at mode
    simp [Control.mode, ModeState.setSelection, mode, Mode.isOperatorPending]
  · rfl

theorem argument_agrees (text : Text) (a : Argument) (h : t.toControl.Agrees) :
    (t.argument text a).toControl.Agrees := by
  unfold argument takeCounted
  split
  · exact runCommand_agrees text _ h.toSound rfl
  · next idle =>
    rw [Bool.not_eq_true] at idle
    simp only
    split
    · refine finishMove_agrees text ?_ ?_ ?_
      · rw [moveBy_modes]
        exact h.toSound
      · rw [moveBy_command]
      · rw [Control.mode, moveBy_modes]
        exact idle
    · exact finishMove_agrees (t := { t with command := {} }) text h.toSound rfl idle
    · split
      · exact h.toSound.agrees idle
      · refine finishMove_agrees text (goTo_sound _ _ ?_) ?_ ?_
        · exact h.toSound
        · rw [goTo_command]
        · rw [goTo_pending]
          exact idle

theorem transition_insert_agrees (hc : t.command = {}) :
    (t.transition .enterInsert).toControl.Agrees := by
  have entered := ModeState.transition_lasting (s := t.modes) (e := .enterInsert) (m := .insert) rfl
  rw [← hc] at entered
  exact entered

theorem runEditCommand_agrees (text : Text) (c : EditCommand) (h : t.modes.Sound)
    (hc : t.command = {}) (hm : c.modes.meets t.mode.toModeSet) :
    (t.runEditCommand text c).toControl.Agrees := by
  cases c with
  | enterInsert => exact transition_insert_agrees hc
  | append => exact transition_insert_agrees hc
  | insertAtLineStart => exact transition_insert_agrees hc
  | appendAtLineEnd => exact transition_insert_agrees hc
  | enterReplace =>
    have entered :=
      ModeState.transition_lasting (s := t.modes) (e := .enterReplace) (m := .replace) rfl
    rw [← hc] at entered
    exact entered
  | toggleVisual shape =>
    have toggled := ModeState.toggleVisual_agrees shape t.cursor h (Mode.meets_normal_visual hm)
    rw [← hc] at toggled
    exact toggled
  | enterSelect shape =>
    have entered :=
      ModeState.enterSelect_agrees (s := t.modes) shape t.cursor (Mode.meets_normal hm)
    rw [← hc] at entered
    unfold runEditCommand
    simp only
    split
    · exact entered
    · exact entered
  | toggleSelectVisual =>
    have idle := Mode.not_pending_of_hasSelection (Mode.meets_selecting hm)
    exact switched_agrees text t.cursor h hc idle (Or.inr (Or.inl rfl))
  | singleVisualCommand =>
    have idle := Mode.not_pending_of_hasSelection (Mode.meets_selecting hm)
    exact switched_agrees text t.cursor h hc idle (Or.inr (Or.inr rfl))
  | swapEnds =>
    have selects := Mode.hasSelection_of_visual (Mode.meets_visual hm)
    have idle := Mode.not_pending_of_hasSelection selects
    have swapped := ModeState.swapEnds_agrees t.cursor h idle
    rw [← hc] at swapped
    exact swapped

theorem editCommand_agrees (text : Text) (c : EditCommand) (h : t.toControl.Agrees)
    (hm : c.modes.meets t.mode.toModeSet) : (t.editCommand text c).toControl.Agrees := by
  have ran : ({ t with command := {} }.runEditCommand text c).toControl.Agrees :=
    runEditCommand_agrees text c h.toSound rfl hm
  unfold editCommand
  simp only
  split
  · exact ran
  · exact ran

theorem run_agrees (text : Text) (f : Handler) (h : t.toControl.Agrees)
    (hm : f.modes.meets t.mode.toModeSet) : (t.run text f).toControl.Agrees := by
  cases f with
  | motion m => exact argument_agrees text _ h
  | textObject o => exact argument_agrees text _ h
  | operator o => exact operator_agrees text o h
  | command c => exact editCommand_agrees text c h hm
  | extension f => simp [Handler.modes, ModeSet.meets] at hm

theorem rubOut_toControl (t : Turn) : t.rubOut.toControl = t.toControl := by
  unfold rubOut
  simp only
  split
  · rfl
  · split <;> rfl

theorem typeChar_toControl (t : Turn) (c : Char) : (t.typeChar c).toControl = t.toControl := by
  unfold typeChar
  simp only
  split <;> rfl

theorem insertKey_agrees (k : Key) (h : t.toControl.Agrees) (hm : t.mode.isTyping) :
    (t.insertKey k).toControl.Agrees := by
  unfold insertKey
  split
  · have empty := h.idle (Or.inl hm)
    refine ModeState.exit_agrees h.base ?_
    simp [transition, Control.transition, empty]
  · rw [rubOut_toControl]
    exact h
  · split
    · rw [typeChar_toControl]
      exact h
    · exact h

theorem replaceSelection_agrees (text : Text) (c : Option Char) (h : t.toControl.Agrees)
    (hc : t.command = {}) : (t.replaceSelection text c).toControl.Agrees := by
  unfold replaceSelection
  split
  · exact h
  · have inserts := transition_insert_agrees hc
    cases c with
    | some c => exact inserts
    | none => exact inserts

theorem selectKey_agrees (text : Text) (k : Key) (h : t.toControl.Agrees) (hm : t.mode.isSelect) :
    (t.selectKey text k).toControl.Agrees := by
  have empty := h.idle (Or.inr hm)
  unfold selectKey
  split
  · exact replaceSelection_agrees text none h empty
  · split
    · exact replaceSelection_agrees text _ h empty
    · exact h

end Turn

/-- What a step makes of the turn. -/
inductive Turn.Effect (text : Text) (t : Turn) : Turn → Prop where
  | still : Effect text t t
  | failed : Effect text t t.fail
  | dropped : Effect text t { t with toControl := t.dropCommand }
  | left (empty : t.command.isEmpty) (idle : t.mode.isOperatorPending = false)
      (selects : t.mode.hasSelection) :
      Effect text t ((t.transition .exit).emit (.setSelection none))
  | grown {b : CommandBuilder} (commands : t.mode.isTyping = false)
      (select : t.mode.isSelect = false) (grows : t.command.Grows b) :
      Effect text t { t with command := b }
  | ran {f : Handler} (meets : f.modes.meets t.mode.toModeSet) : Effect text t (t.run text f)
  | typed (typing : t.mode.isTyping) (k : Key) : Effect text t (t.insertKey k)
  | typedOver (select : t.mode.isSelect) (k : Key) : Effect text t (t.selectKey text k)

theorem Turn.Effect.agrees {t t' : Turn} {text : Text} (e : t.Effect text t')
    (h : t.toControl.Agrees) : t'.toControl.Agrees := by
  cases e with
  | still => exact h
  | failed => exact Turn.fail_agrees h.toSound
  | dropped => exact Control.dropCommand_agrees h.toSound
  | left empty idle selects =>
    exact ModeState.exit_agrees h.base (ModeState.Agrees.operator_eq_none h idle)
  | grown commands select grows =>
    exact ModeState.Agrees.grows (s := t.modes) h commands select grows
  | ran meets => exact Turn.run_agrees text _ h meets
  | typed typing k => exact Turn.insertKey_agrees k h typing
  | typedOver select k => exact Turn.selectKey_agrees text k h select

namespace Dispatch

variable {km : Keymap} {text : Text} {flush : Bool} {d d' : Dispatch}

theorem escape_effect (text : Text) (d : Dispatch) : d.toTurn.Effect text d.escape.toTurn := by
  unfold escape
  split
  · exact .dropped
  · next idle =>
    simp only [not_or, Decidable.not_not] at idle
    obtain ⟨_, empty, settled⟩ := idle
    split
    · next selects => exact .left empty (Bool.eq_false_iff.2 settled) selects
    · exact .still

theorem intercept?_effect {k : Key} (text : Text) (h : d.intercept? k = some d') :
    d.toTurn.Effect text d'.toTurn := by
  obtain ⟨commands, caught⟩ := caught_of_intercept? h
  cases caught with
  | escape code => exact escape_effect text d
  | grows idle select grows => exact .grown commands select grows
  | refused idle select => exact .failed

theorem unmapped_effect (text : Text) (d : Dispatch) :
    d.toTurn.Effect text (d.unmapped text).toTurn := by
  unfold unmapped
  split
  · exact .still
  · split
    · next typing => exact .typed typing _
    · split
      · next select => exact .typedOver select _
      · exact .failed

theorem apply_effect {m : Mapping} {n : Nat} (text : Text) (hf : m.Fits)
    (hm : m.modes.meets d.mode.toModeSet) : d.toTurn.Effect text (d.apply text m n).toTurn := by
  unfold apply
  split
  · next f target =>
    rw [Mapping.Fits, target] at hf
    rw [show m.modes = f.modes from hf] at hm
    exact .ran hm
  · split
    · exact .failed
    · exact .still

theorem step_effect (hkm : km.Fits) (hs : Step km text flush d d') :
    d.toTurn.Effect text d'.toTurn := by
  have accepted : d.accept.toTurn = d.toTurn := d.accept_toTurn
  cases hs with
  | caught hq hc =>
    rename_i s queue
    exact intercept?_effect (d := { d with queue }) text hc
  | waits hl ha =>
    rw [accepted]
    exact .still
  | mapped hl ha =>
    obtain ⟨mem, applies⟩ := mapping_of_answer ha
    rw [← accepted]
    refine apply_effect text (hkm _ mem) ?_
    rw [accepted]
    exact applies
  | unmapped hl ha =>
    rw [← accepted]
    exact unmapped_effect text d.accept

theorem step_agrees (hkm : km.Fits) (h : d.toControl.Agrees) (hs : Step km text flush d d') :
    d'.toControl.Agrees := (step_effect hkm hs).agrees h

end Dispatch

def Call.key? : Call → Option Key
  | input i => some i.toKey
  | flush | abort => none

namespace Editor

theorem starting_agrees (m : LastingMode) (r : EndRule) : (starting m r).toControl.Agrees := by
  have sound : (starting m r).modes.Sound := by
    cases m <;> exact ⟨rfl, by simp [starting, LastingMode.toMode, Mode.isTyping, Mode.base]⟩
  exact sound.agrees (by cases m <;> rfl)

theorem respond_agrees {e : Editor} {km : Keymap} (hkm : km.Fits) (h : e.toControl.Agrees)
    (text : Text) (cursor : Nat) (c : Call) :
    (e.respond km text cursor c).editor.toControl.Agrees := by
  cases c with
  | input i =>
    exact Dispatch.run_invariant km text false (P := fun d => d.toControl.Agrees)
      (fun _ _ kept step => Dispatch.step_agrees hkm kept step) h
  | flush =>
    exact Dispatch.run_invariant km text true (P := fun d => d.toControl.Agrees)
      (fun _ _ kept step => Dispatch.step_agrees hkm kept step) h
  | abort => exact Control.dropCommand_agrees h.toSound

def replay (e : Editor) (km : Keymap) (calls : List (Text × Nat × Call)) : Editor :=
  calls.foldl (fun e (text, cursor, c) => (e.respond km text cursor c).editor) e

theorem replay_agrees {e : Editor} {km : Keymap} (hkm : km.Fits) (h : e.toControl.Agrees)
    (calls : List (Text × Nat × Call)) : (e.replay km calls).toControl.Agrees := by
  induction calls generalizing e with
  | nil => exact h
  | cons call calls ih => exact ih (respond_agrees hkm h _ _ _)

/-- Whatever an editor with a keymap made by settings is called for, anchor and operator are
there in their own modes only, and nothing is left of a command where keys are typed. -/
theorem control_follows_mode {s : Settings} {km : Keymap} (h : s.keymap = .ok km)
    (m : LastingMode) (r : EndRule) (calls : List (Text × Nat × Call)) :
    let e := (starting m r).replay km calls
    (e.modes.anchor.isSome = (e.mode.isVisual || e.mode.isSelect)) ∧
      (e.command.operator.isSome = e.mode.isOperatorPending ∧
        (e.mode.isOperatorPending → e.command.stage = .awaitingArgument)) ∧
      (e.mode.isTyping ∨ e.mode.isSelect → e.command = {}) ∧
      (e.mode.isOperatorPending ∨ e.mode.isVisual ∨ e.mode.isSelect → e.mode.base = .normal) := by
  have agrees := replay_agrees (Settings.keymap_fits h) (starting_agrees m r) calls
  refine ⟨?_, ⟨agrees.operator, agrees.awaiting⟩, agrees.idle, ?_⟩
  · rw [agrees.anchor, Mode.hasSelection_eq]
    rfl
  · intro passing
    refine agrees.base ?_
    rw [Control.mode] at passing
    cases hm : ((starting m r).replay km calls).modes.mode <;>
      simp_all [Mode.isOperatorPending, Mode.isVisual, Mode.isSelect, Mode.isTyping]

theorem control_follows_mode_after_operator :
    let calls : List (Text × Nat × Call) := [(#['a'], 0, .input (.key (Key.plain 'd')))]
    let e := (starting .normal .inclusive).replay .standard calls
    Settings.keymap { extensions := ["textobj-indent"] } = .ok Keymap.standard ∧
      e.mode = .operatorPending .normal ∧ e.command.operator.isSome ∧
      e.command.stage = .awaitingArgument ∧ e.mode.base = .normal := by
  intro calls e
  have follows := control_follows_mode Settings.keymap_indentObjects .normal .inclusive calls
  have waits : e.mode = .operatorPending .normal := by cbv
  refine ⟨Settings.keymap_indentObjects, waits, ?_, ?_, ?_⟩
  · exact follows.2.1.1.trans (by rw [waits]; rfl)
  · exact follows.2.1.2 (by rw [waits]; rfl)
  · exact follows.2.2.2 (Or.inl (by rw [waits]; rfl))

end Editor

end ModalEditing
