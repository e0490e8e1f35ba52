import ModalEditing.Proofs.SessionBounds

/-! The selection that a host shows. A host learns of it from the actions alone, and shows the
one it was told of last. Every step of a turn tells it anew where the selection has changed, so
a host that showed the selection before a call shows it after the call as well. -/

namespace ModalEditing

/-- The selection that a host shows after the action, if it showed `s` before. -/
def Action.shown (s : Option Selection) : Action → Option Selection
  | setSelection s' => s'
  | setCursor _ | operate .. | insertText .. | replaceText .. | bell => s

def Action.shownAfter (s : Option Selection) (as : Array Action) : Option Selection :=
  as.foldl shown s

theorem Mode.hasSelection_after {m : Mode} {e : ModeEvent}
    (he : e = .commandDone ∨ e = .toggleSelectVisual ∨ e = .singleVisualCommand)
    (h : m.hasSelection) : (m.after e).hasSelection := by
  rw [(after_keeps he (not_pending_of_hasSelection h)).1, h]

theorem Mode.unselected_of_pending {m : Mode} (h : m.isOperatorPending) :
    m.hasSelection = false := by
  cases m <;> first | rfl | contradiction

theorem ModeState.selection?_eq_none {s : ModeState} (h : s.mode.hasSelection = false) (p : Nat) :
    s.selection? p = none := by
  have shapeless : s.mode.shape? = none := by
    rwa [← Option.isNone_iff_eq_none, ← Option.isSome_eq_false_iff]
  rw [selection?, shapeless, Option.map_none]

theorem Control.dropCommand_selection? (c : Control) (p : Nat) :
    c.dropCommand.modes.selection? p = c.modes.selection? p := by
  unfold dropCommand
  simp only
  split
  · next pending =>
    have before :=
      ModeState.selection?_eq_none (s := c.modes) (Mode.unselected_of_pending pending) p
    exact (ModeState.selection?_eq_none (Mode.after_exit c.modes.mode) p).trans before.symm
  · rfl

namespace Turn

def shown (s : Option Selection) (t : Turn) : Option Selection := Action.shownAfter s t.actions

/-- The host shows the selection that there is. -/
def Shows (s : Option Selection) (t : Turn) : Prop := t.shown s = t.selection?

variable {s : Option Selection} {t : Turn} {text : Text}

@[simp] theorem shown_emit (s : Option Selection) (t : Turn) (a : Action) :
    (t.emit a).shown s = a.shown (t.shown s) := by
  simp [shown, emit, Action.shownAfter]

@[simp] theorem shown_moveTo (s : Option Selection) (t : Turn) (p : Nat) :
    (t.moveTo p).shown s = t.shown s :=
  shown_emit s { t with cursor := p } _

@[simp] theorem shown_settleAt (s : Option Selection) (t : Turn) (p : Nat) :
    (t.settleAt p).shown s = t.shown s := by
  unfold settleAt
  split
  · rfl
  · exact shown_moveTo s t p

@[simp] theorem shown_withModes (s : Option Selection) (t : Turn) (change : ModeState × Nat) :
    (t.withModes change).shown s = t.shown s :=
  shown_settleAt s { t with modes := change.1 } _

theorem Shows.unselected (h : t.Shows s) (hm : t.mode.hasSelection = false) : t.shown s = none :=
  h.trans (ModeState.selection?_eq_none hm t.cursor)

theorem shows_of_unselected (h : t.shown s = none) (hm : t.mode.hasSelection = false) :
    t.Shows s :=
  h.trans (ModeState.selection?_eq_none hm t.cursor).symm

theorem showSelection_shows (s : Option Selection) (t : Turn) : t.showSelection.Shows s :=
  shown_emit s t _

theorem fail_shows (h : t.Shows s) : t.fail.Shows s := by
  have same : t.fail.shown s = t.shown s := shown_emit s { t with toControl := t.dropCommand } _
  exact same.trans (h.trans (t.dropCommand_selection? t.cursor).symm)

theorem operateOnSelection_shows (text : Text) (o : Operator) (h : t.Shows s) :
    (t.operateOnSelection text o).Shows s := by
  unfold operateOnSelection takeCounted
  simp only
  split
  · exact fail_shows (t := { t with command := {} }) h
  · refine shows_of_unselected ?_ (leaveAfter_unselected _ o)
    rw [shown_moveTo]
    exact shown_emit s _ (.setSelection none)

theorem runCommand_shows (text : Text) (c : Command) (h : t.Shows s)
    (hm : t.mode.hasSelection = false) : (t.runCommand text c).Shows s := by
  unfold runCommand
  split
  · exact fail_shows h
  · next o _ =>
    simp only
    split
    · exact fail_shows h
    · refine shows_of_unselected ?_ (leaveAfter_unselected _ o)
      rw [shown_moveTo]
      exact (shown_emit s t _).trans (h.unselected hm)

theorem entered_shows (text : Text) (o : Operator) (h : t.Shows s)
    (hm : t.mode.hasSelection = false) :
    (match t.command.enterOperator o with
      | .ok (.waiting b) => { t with command := b }.transition .enterOperatorPending
      | .ok (.complete c) => { t with command := {} }.runCommand text c
      | .error _ => t.fail).Shows s := by
  split
  · exact shows_of_unselected (h.unselected hm) rfl
  · exact runCommand_shows (t := { t with command := {} }) text _ h hm
  · exact fail_shows h

theorem operator_shows (text : Text) (o : Operator) (h : t.Shows s) :
    (t.operator text o).Shows s := by
  unfold operator
  split
  · exact operateOnSelection_shows text o h
  · next mode => exact entered_shows text o h (by rw [mode]; rfl)
  · next mode => exact entered_shows text o h (by rw [mode]; rfl)
  · exact fail_shows h

theorem finishMove_shows (text : Text) (h : t.mode.hasSelection = false → t.shown s = none) :
    (t.finishMove text).Shows s := by
  unfold finishMove
  simp only
  split
  · exact showSelection_shows s _
  · next unselected =>
    rw [Bool.not_eq_true] at unselected
    refine shows_of_unselected ?_ unselected
    rw [shown_withModes]
    refine h (Bool.eq_false_iff.2 fun selects => Bool.eq_false_iff.1 unselected ?_)
    rw [Control.mode, withModes_toControl, ModeState.finishCommand, ModeState.switch_mode]
    exact Mode.hasSelection_after (Or.inl rfl) selects

theorem moveBy_shown (s : Option Selection) (t : Turn) (text : Text) (m : Motion)
    (typed : Option Nat) : (t.moveBy text m typed).shown s = t.shown s := by
  unfold moveBy
  simp only
  split
  · exact shown_emit s t .bell
  · exact shown_moveTo s { t with column := t.columnAfter text m } _

theorem goTo_shown (s : Option Selection) (t : Turn) (o : TextObject) (span : Span) :
    (t.goTo o span).shown s = t.shown s := by
  unfold goTo
  simp only
  split
  · exact shown_moveTo s { t with modes := t.modes.setSelection span.start _ } _
  · exact shown_moveTo s t _

theorem goTo_hasSelection (t : Turn) (o : TextObject) (span : Span) :
    (t.goTo o span).mode.hasSelection = t.mode.hasSelection := by
  unfold goTo
  simp only
  split
  · next mode =>
    rw [Control.mode] at mode
    simp [Control.mode, ModeState.setSelection, mode, Mode.hasSelection, Mode.shape?]
  · rfl

theorem argument_shows (text : Text) (a : Argument) (h : t.Shows s) :
    (t.argument text a).Shows s := by
  unfold argument takeCounted
  split
  · next pending =>
    exact runCommand_shows (t := { t with command := {} }) text _ h
      (Mode.unselected_of_pending pending)
  · simp only
    split
    · next m =>
      refine finishMove_shows text fun unselected => ?_
      rw [Control.mode, moveBy_modes] at unselected
      rw [moveBy_shown]
      exact h.unselected unselected
    · exact finishMove_shows (t := { t with command := {} }) text h.unselected
    · split
      · exact (shown_emit s _ .bell).trans h
      · refine finishMove_shows text fun unselected => ?_
        rw [goTo_hasSelection] at unselected
        rw [goTo_shown]
        exact h.unselected unselected

theorem runEditCommand_shows (text : Text) (c : EditCommand) (h : t.Shows s)
    (hm : c.modes.meets t.mode.toModeSet) : (t.runEditCommand text c).Shows s := by
  -- commands that lead to Insert or Replace start from Normal mode, where nothing is selected
  have unselected (normal : c.modes = { normal := true }) : t.shown s = none := by
    rw [normal] at hm
    exact h.unselected (by rw [Mode.meets_normal hm]; rfl)
  cases c with
  | enterInsert => exact shows_of_unselected (unselected rfl) rfl
  | append => exact shows_of_unselected ((shown_moveTo s _ _).trans (unselected rfl)) rfl
  | insertAtLineStart => exact shows_of_unselected ((shown_moveTo s _ _).trans (unselected rfl)) rfl
  | appendAtLineEnd => exact shows_of_unselected ((shown_moveTo s _ _).trans (unselected rfl)) rfl
  | enterReplace => exact shows_of_unselected (unselected rfl) rfl
  | enterSelect shape =>
    unfold runEditCommand
    simp only
    split
    · exact showSelection_shows s _
    · exact showSelection_shows s _
  | toggleVisual shape => exact showSelection_shows s _
  | toggleSelectVisual => exact showSelection_shows s _
  | singleVisualCommand => exact showSelection_shows s _
  | swapEnds => exact showSelection_shows s _

theorem editCommand_shows (text : Text) (c : EditCommand) (h : t.Shows s)
    (hm : c.modes.meets t.mode.toModeSet) : (t.editCommand text c).Shows s := by
  have ran := runEditCommand_shows (t := { t with command := {} }) text c h hm
  unfold editCommand
  simp only
  split
  · exact ran
  · exact ran

theorem run_shows (text : Text) (f : Handler) (h : t.Shows s)
    (hm : f.modes.meets t.mode.toModeSet) : (t.run text f).Shows s := by
  cases f with
  | motion m => exact argument_shows text _ h
  | textObject o => exact argument_shows text _ h
  | operator o => exact operator_shows text o h
  | command c => exact editCommand_shows text c h hm
  | extension f => simp [Handler.modes, ModeSet.meets] at hm

theorem typeChar_shown (s : Option Selection) (t : Turn) (c : Char) :
    (t.typeChar c).shown s = t.shown s := by
  unfold typeChar
  simp only
  split
  · exact shown_emit s t _
  · exact shown_emit s t _

theorem rubOut_shown (s : Option Selection) (t : Turn) : t.rubOut.shown s = t.shown s := by
  unfold rubOut
  simp only
  split
  · rfl
  · rw [shown_moveTo]
    split
    · rfl
    · exact shown_emit s t _

theorem insertKey_shows (k : Key) (h : t.Shows s) (hm : t.mode.hasSelection = false) :
    (t.insertKey k).Shows s := by
  have unselected := h.unselected hm
  unfold insertKey
  split
  · exact shows_of_unselected unselected (Mode.after_exit t.mode)
  · exact shows_of_unselected ((rubOut_shown s t).trans unselected) (by rwa [rubOut_toControl])
  · split
    · next c _ =>
      exact shows_of_unselected ((typeChar_shown s t c).trans unselected)
        (by rwa [typeChar_toControl])
    · exact (shown_emit s t .bell).trans h

theorem replaceSelection_shows (text : Text) (c : Option Char) (h : t.Shows s) :
    (t.replaceSelection text c).Shows s := by
  unfold replaceSelection
  split
  · exact h
  · next x _ =>
    let u := (t.emit (.operate .delete (x.span text) x.shape 1 none)).emit (.setSelection none)
    have told : u.shown s = none := shown_emit s _ _
    cases c with
    | none =>
      exact shows_of_unselected ((shown_moveTo s (u.transition .enterInsert) _).trans told) rfl
    | some c =>
      refine shows_of_unselected ?_ rfl
      exact (shown_emit s _ _).trans ((shown_moveTo s (u.transition .enterInsert) _).trans told)

theorem selectKey_shows (text : Text) (k : Key) (h : t.Shows s) :
    (t.selectKey text k).Shows s := by
  unfold selectKey
  split
  · exact replaceSelection_shows text none h
  · split
    · exact replaceSelection_shows text _ h
    · exact (shown_emit s t .bell).trans h

end Turn

theorem Turn.Effect.shows {s : Option Selection} {t t' : Turn} {text : Text}
    (e : t.Effect text t') (h : t.Shows s) : t'.Shows s := by
  cases e with
  | still => exact h
  | failed => exact Turn.fail_shows h
  | dropped => exact h.trans (t.dropCommand_selection? t.cursor).symm
  | left empty idle selects =>
    have told := Turn.shown_emit s (t.transition .exit) (.setSelection none)
    exact Turn.shows_of_unselected told (Mode.after_exit t.mode)
  | grown commands select grows => exact h
  | ran meets => exact Turn.run_shows text _ h meets
  | typed typing k => exact Turn.insertKey_shows k h (Mode.unselected_of_typing typing)
  | typedOver select k => exact Turn.selectKey_shows text k h

namespace Editor

theorem respond_shows {km : Keymap} (hkm : km.Fits) (e : Editor) {text : Text} {cursor : Nat}
    (hc : cursor ≤ text.size) (c : Call) :
    let a := e.respond km text cursor c
    Action.shownAfter (e.selection? cursor) a.actions = a.editor.selection? a.cursor := by
  have place : min cursor text.size = cursor := Nat.min_eq_left hc
  have turn (queue : List Stroke) (flush : Bool) :
      ((e.begin text cursor queue).run km text flush).toTurn.Shows (e.selection? cursor) := by
    refine Dispatch.run_invariant km text flush
      (P := fun d => d.toTurn.Shows (e.selection? cursor))
      (fun _ _ kept step => (Dispatch.step_effect hkm step).shows kept) ?_
    exact (congrArg e.selection? place).symm
  cases c with
  | input i => exact turn [{ key := i.toKey }] false
  | flush => exact turn [] true
  | abort => exact (e.dropCommand_selection? cursor).symm

/-- With a keymap made by settings, a host that shows the selection before a call and keeps to
the actions shows the selection after it, whatever has been called for before. -/
theorem shown_selection_current {cfg : Settings} {km : Keymap} (h : cfg.keymap = .ok km)
    (m : LastingMode) (r : EndRule) (calls : List (Text × Nat × Call)) {text : Text} {cursor : Nat}
    (hc : cursor ≤ text.size) {s : Option Selection} (c : Call) :
    let e := (starting m r).replay km calls
    let a := e.respond km text cursor c
    s = e.selection? cursor →
      Action.shownAfter s a.actions = a.editor.selection? a.cursor := by
  rintro e a rfl
  exact respond_shows (Settings.keymap_fits h) e hc c

theorem shown_selection_current_one_shot :
    let text := Text.ofString "one two"
    let calls := [(text, 4, Call.input (.key (.plain 'v'))), (text, 4, .input (.key (.ctrl 'g')))]
    let e := (starting .normal .inclusive).replay .standard calls
    let a := e.respond .standard text 5 (.input (.key (.ctrl 'o')))
    let s : Selection := { anchor := 4, head := 5, shape := .character, exclusive := true }
    Settings.keymap { extensions := ["textobj-indent"] } = .ok Keymap.standard ∧
      5 ≤ text.size ∧ some s = e.selection? 5 ∧
      Action.shownAfter (some s) a.actions = a.editor.selection? a.cursor ∧
      a.editor.selection? a.cursor = some { s with head := 4, exclusive := false } := by
  intro text calls e a s
  have inside : 5 ≤ text.size := by decide
  have told : some s = e.selection? 5 := by cbv
  have current := shown_selection_current Settings.keymap_indentObjects .normal .inclusive calls
    inside (.input (.key (.ctrl 'o'))) told
  exact ⟨Settings.keymap_indentObjects, inside, told, current, by cbv⟩

end Editor

namespace Session

def shownAll (s : Session) (x : Option Selection) : List Call → Option Selection
  | [] => x
  | c :: cs => (s.call c).1.shownAll (Action.shownAfter x (s.call c).2) cs

end Session

end ModalEditing
