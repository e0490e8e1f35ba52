import ModalEditing.Host.Buffer
import ModalEditing.Proofs.ControlState
import ModalEditing.Proofs.OffsetBounds

/-! Actions that fit the text. The offsets that a handler hands out lie within the text at the
moment when the host uses them, and cursor and anchor lie within the text that the actions
leave. A handler has to see the text as the actions before it left it. -/

namespace ModalEditing

def Action.Fits (size : Nat) : Action → Prop
  | setCursor p => p ≤ size
  | setSelection s => ∀ x ∈ s, x.anchor ≤ size ∧ x.head ≤ size
  | operate _ span _ _ _ => span.Within size
  | insertText p _ | replaceText p _ => p ≤ size
  | bell => True

namespace Text

/-- Each action fits the text that the actions before it left. -/
def Admits (t : Text) : List Action → Prop
  | [] => True
  | a :: as => a.Fits t.size ∧ (t.apply a).Admits as

variable {t : Text}

theorem applyAll_push (t : Text) (as : Array Action) (a : Action) :
    t.applyAll (as.push a) = (t.applyAll as).apply a := by
  simp [applyAll]

theorem admits_concat (as : List Action) (a : Action) :
    t.Admits (as ++ [a]) ↔ t.Admits as ∧ a.Fits (as.foldl apply t).size := by
  induction as generalizing t with
  | nil => simp [Admits]
  | cons b as ih => simp only [List.cons_append, Admits, ih, List.foldl_cons, and_assoc]

theorem admits_push (as : Array Action) (a : Action) :
    t.Admits (as.push a).toList ↔ t.Admits as.toList ∧ a.Fits (t.applyAll as).size := by
  rw [Array.toList_push, admits_concat, applyAll, Array.foldl_toList]

theorem apply_still (t : Text) {a : Action} (h : a.editsText = false) : t.apply a = t := by
  cases a <;> first | rfl | contradiction

theorem size_removeSpan {r : Span} (h : r.Within t.size) :
    (t.removeSpan r).size + (r.stop - r.start) = t.size := by
  unfold removeSpan
  simp only [Span.clamp_eq_self h.forward h.inside]
  exact size_remove h.forward h.inside

theorem start_le_size_operate {r : Span} (h : r.Within t.size) (o : Operator) (shape : Shape)
    (count : Nat) (register : Option Char) :
    r.start ≤ (t.apply (.operate o r shape count register)).size := by
  have forward := h.forward
  have inside := h.inside
  rw [apply]
  split
  · have := size_removeSpan h
    omega
  · omega

theorem lt_size_insertText {p : Nat} (h : p ≤ t.size) (c : Char) :
    p < (t.apply (.insertText p c.toString)).size := by
  have inside : min p t.size ≤ t.size := Nat.min_le_right _ _
  rw [apply, insertClamped, size_insertAt _ inside]
  simp
  omega

theorem lt_size_replaceText {p : Nat} (h : p ≤ t.size) (c : Char) :
    p < (t.apply (.replaceText p c.toString)).size := by
  rw [apply, typeOver]
  simp only [Nat.min_eq_left h]
  split
  · next inside =>
    have one : p ≤ p + 1 := Nat.le_succ p
    have := size_remove one inside.1
    rw [size_insertAt _ (by omega)]
    simp
    omega
  · rw [size_insertAt _ h]
    simp
    omega

end Text

theorem Mode.hasSelection_of_after {m : Mode} {e : ModeEvent}
    (he : e = .commandDone ∨ e = .toggleSelectVisual ∨ e = .singleVisualCommand)
    (h : (m.after e).hasSelection) : m.hasSelection := by
  rcases he with rfl | rfl | rfl
  all_goals
    cases m with
    | visual shape next oneShot => rfl
    | select shape next => rfl
    | operatorPending next =>
      cases next <;> simp [after, hasSelection, shape?, LastingMode.toMode] at h
    | _ => simp [after, hasSelection, shape?] at h

theorem Mode.unselected_of_typing {m : Mode} (h : m.isTyping) : m.hasSelection = false := by
  cases m <;> first | rfl | contradiction

theorem Mode.after_exit (m : Mode) : (m.after .exit).hasSelection = false := by
  cases m with
  | visual shape next oneShot => exact next.toMode_hasSelection
  | select shape next => exact next.toMode_hasSelection
  | operatorPending next => exact next.toMode_hasSelection
  | _ => rfl

namespace ModeState

def Within (s : ModeState) (size : Nat) : Prop := s.mode.hasSelection → ∀ a ∈ s.anchor, a ≤ size

variable {s : ModeState} {e : ModeEvent} {size p cursor : Nat}

theorem within_of_unselected (h : s.mode.hasSelection = false) : s.Within size :=
  fun selects => absurd selects (Bool.eq_false_iff.1 h)

theorem within_some (h : p ≤ size) : ({ s with anchor := some p } : ModeState).Within size := by
  intro _ a ha
  rw [← Option.some.inj ha]
  exact h

theorem transition_within (h : s.Within size)
    (he : (s.mode.after e).hasSelection → s.mode.hasSelection) : (s.transition e).Within size := by
  intro selects
  have after : (s.mode.after e).hasSelection := selects
  simp only [transition, if_pos after]
  exact h (he after)

theorem switch_within (t : Text) (h : s.Within t.size) (hc : cursor ≤ t.size)
    (he : (s.mode.after e).hasSelection → s.mode.hasSelection) :
    (s.switch e t cursor).1.Within t.size ∧ (s.switch e t cursor).2 ≤ t.size := by
  have moved := transition_within h he
  unfold switch
  simp only
  split
  · split
    · split
      · unfold widen
        split
        · exact ⟨moved, Nat.min_le_right _ _⟩
        · exact ⟨within_some (Nat.min_le_right _ _), hc⟩
      · split
        · next anchor _ kept _ _ narrows =>
          have inside : anchor ≤ t.size := by
            rw [Bool.and_eq_true] at narrows
            exact moved (Mode.hasSelection_of_visual narrows.2) anchor kept
          unfold narrow
          split
          · exact ⟨moved, by simp only; omega⟩
          · split
            · exact ⟨within_some (by omega), hc⟩
            · exact ⟨moved, hc⟩
        · exact ⟨moved, hc⟩
    · exact ⟨moved, hc⟩
  · exact ⟨moved, hc⟩

theorem toggleVisual_within (shape : Shape) (h : s.Within size) (hc : cursor ≤ size) :
    (s.toggleVisual shape cursor).Within size := by
  unfold toggleVisual
  simp only
  split
  · exact within_some hc
  · next kept =>
    refine transition_within h ?_
    intro selects
    by_contra fresh
    refine kept ⟨?_, fresh⟩
    cases hm : s.mode <;>
      simp_all [transition, Mode.after, Mode.hasSelection, Mode.shape?, Mode.isVisual]

theorem enterSelect_within (shape : Shape) (h : s.Within size) (hc : cursor ≤ size) :
    (s.enterSelect shape cursor).Within size := by
  unfold enterSelect
  simp only
  split
  · next selects => exact transition_within h fun _ => selects
  · exact within_some hc

theorem swapEnds_within (h : s.Within size) (hs : s.mode.hasSelection) (hc : cursor ≤ size) :
    (s.swapEnds cursor).1.Within size ∧ (s.swapEnds cursor).2 ≤ size := by
  unfold swapEnds
  split
  · next anchor kept => exact ⟨within_some hc, h hs anchor kept⟩
  · exact ⟨h, hc⟩

theorem setSelection_within (shape : Shape) (h : p ≤ size) :
    (s.setSelection p shape).Within size := by
  unfold setSelection
  split
  · exact within_some (s := { s with mode := _ }) h
  · exact within_some h

end ModeState

namespace Turn

def now (t : Turn) (text : Text) : Text := text.applyAll t.actions

/-- The actions fit, and cursor and anchor lie within the text that they leave. -/
structure Bounded (text : Text) (t : Turn) : Prop where
  admits : text.Admits t.actions.toList
  cursor : t.cursor ≤ (t.now text).size
  anchor : t.modes.Within (t.now text).size

variable {text : Text} {t : Turn}

theorem now_emit (t : Turn) (text : Text) (a : Action) :
    (t.emit a).now text = (t.now text).apply a :=
  text.applyAll_push t.actions a

theorem now_emit_still (t : Turn) (text : Text) {a : Action} (h : a.editsText = false) :
    (t.emit a).now text = t.now text := by
  rw [now_emit, Text.apply_still _ h]

@[simp] theorem now_moveTo (t : Turn) (text : Text) (p : Nat) :
    (t.moveTo p).now text = t.now text :=
  now_emit_still { t with cursor := p } text rfl

theorem admits_emit {a : Action} (h : text.Admits t.actions.toList)
    (ha : a.Fits (t.now text).size) : text.Admits (t.emit a).actions.toList :=
  (Text.admits_push t.actions a).2 ⟨h, ha⟩

theorem emit_bounded {a : Action} (h : t.Bounded text) (ha : a.Fits (t.now text).size)
    (still : a.editsText = false) : (t.emit a).Bounded text := by
  have same := now_emit_still t text still
  refine ⟨admits_emit h.admits ha, ?_, ?_⟩
  · rw [same]
    exact h.cursor
  · rw [same]
    exact h.anchor

theorem moveTo_bounded {p : Nat} (h : text.Admits t.actions.toList)
    (ha : t.modes.Within (t.now text).size) (hp : p ≤ (t.now text).size) :
    (t.moveTo p).Bounded text := by
  refine ⟨admits_emit (t := { t with cursor := p }) h hp, ?_, ?_⟩
  · rw [now_moveTo]
    exact hp
  · rw [now_moveTo]
    exact ha

theorem settleAt_bounded {p : Nat} (h : t.Bounded text) (hp : p ≤ (t.now text).size) :
    (t.settleAt p).Bounded text := by
  unfold settleAt
  split
  · exact h
  · exact moveTo_bounded h.admits h.anchor hp

theorem selection?_fits (h : t.Bounded text) :
    (Action.setSelection t.selection?).Fits (t.now text).size := by
  intro x hx
  obtain ⟨shape, selects, rfl⟩ := Option.map_eq_some_iff.1 hx
  refine ⟨?_, h.cursor⟩
  cases ha : t.modes.anchor with
  | none => exact h.cursor
  | some a => exact h.anchor (by rw [Mode.hasSelection, selects]; rfl) a ha

theorem showSelection_bounded (h : t.Bounded text) : t.showSelection.Bounded text :=
  emit_bounded h (selection?_fits h) rfl

theorem bounded_of_modes {modes : ModeState} {command : CommandBuilder} {column : Option Column}
    (h : t.Bounded text) (hm : modes.Within (t.now text).size) :
    { t with modes, command, column }.Bounded text :=
  ⟨h.admits, h.cursor, hm⟩

theorem transition_bounded {e : ModeEvent} (h : t.Bounded text)
    (he : (t.mode.after e).hasSelection = false) : (t.transition e).Bounded text :=
  ⟨h.admits, h.cursor, ModeState.within_of_unselected he⟩

theorem withModes_bounded {change : ModeState × Nat} (h : t.Bounded text)
    (hm : change.1.Within (t.now text).size) (hc : change.2 ≤ (t.now text).size) :
    (t.withModes change).Bounded text :=
  settleAt_bounded (bounded_of_modes h hm) hc

theorem dropCommand_within {c : Control} {size : Nat} (h : c.modes.Within size) :
    c.dropCommand.modes.Within size := by
  unfold Control.dropCommand
  simp only
  split
  · exact ModeState.within_of_unselected (Mode.after_exit c.modes.mode)
  · exact h

theorem fail_bounded (h : t.Bounded text) : t.fail.Bounded text :=
  emit_bounded (t := { t with toControl := t.dropCommand })
    ⟨h.admits, h.cursor, dropCommand_within h.anchor⟩ trivial rfl

theorem leaveAfter_unselected (t : Turn) (o : Operator) :
    (t.leaveAfter o).mode.hasSelection = false := by
  unfold leaveAfter
  split
  · rfl
  · exact Mode.after_exit t.modes.mode

theorem start_le_size_now {o : Operator} {span : Span} {shape : Shape} {count : Nat}
    {register : Option Char} (h : span.Within (t.now text).size) :
    span.start ≤ ((t.emit (.operate o span shape count register)).now text).size := by
  rw [now_emit]
  exact Text.start_le_size_operate h o shape count register

theorem runCommand_bounded (c : Command) (h : t.Bounded text) :
    (t.runCommand (t.now text) c).Bounded text := by
  unfold runCommand
  split
  · exact fail_bounded h
  · next o _ =>
    simp only
    split
    · exact fail_bounded h
    · next span found =>
      have within := Argument.span?_within found
      refine moveTo_bounded ?_ ?_ ?_
      · exact admits_emit h.admits within
      · exact ModeState.within_of_unselected (leaveAfter_unselected _ o)
      · exact start_le_size_now within

theorem deselected_bounded {o : Operator} {s : Selection} {count : Nat} {register : Option Char}
    {u : Turn} (h : t.Bounded text)
    (hu : u.actions = ((t.emit (.operate o (s.span (t.now text)) s.shape count register)).emit
      (.setSelection none)).actions)
    (ha : u.mode.hasSelection = false) : (u.moveTo (s.span (t.now text)).start).Bounded text := by
  have within := s.span_within (t.now text)
  have left : u.now text =
      (t.emit (.operate o (s.span (t.now text)) s.shape count register)).now text := by
    exact (congrArg text.applyAll hu).trans (now_emit_still _ text rfl)
  refine moveTo_bounded ?_ (ModeState.within_of_unselected ha) ?_
  · rw [hu]
    exact admits_emit (admits_emit h.admits within) (by simp [Action.Fits])
  · rw [left]
    exact start_le_size_now within

theorem operateOnSelection_bounded (o : Operator) (h : t.Bounded text) :
    (t.operateOnSelection (t.now text) o).Bounded text := by
  unfold operateOnSelection takeCounted
  simp only
  split
  · exact fail_bounded (bounded_of_modes h h.anchor)
  · exact deselected_bounded h rfl (leaveAfter_unselected _ o)

theorem entered_bounded (o : Operator) (h : t.Bounded text) :
    (match t.command.enterOperator o with
      | .ok (.waiting b) => { t with command := b }.transition .enterOperatorPending
      | .ok (.complete c) => { t with command := {} }.runCommand (t.now text) c
      | .error _ => t.fail).Bounded text := by
  split
  · exact transition_bounded (bounded_of_modes h h.anchor) rfl
  · exact runCommand_bounded _ (bounded_of_modes h h.anchor)
  · exact fail_bounded h

theorem operator_bounded (o : Operator) (h : t.Bounded text) :
    (t.operator (t.now text) o).Bounded text := by
  unfold operator
  split
  · exact operateOnSelection_bounded o h
  · exact entered_bounded o h
  · exact entered_bounded o h
  · exact fail_bounded h

theorem moveBy_bounded (m : Motion) (typed : Option Nat) (h : t.Bounded text) :
    (t.moveBy (t.now text) m typed).Bounded text ∧
      (t.moveBy (t.now text) m typed).now text = t.now text := by
  unfold moveBy
  simp only
  split
  · exact ⟨emit_bounded h trivial rfl, now_emit_still t text rfl⟩
  · next target led =>
    exact ⟨moveTo_bounded h.admits h.anchor (Motion.target?_le_size led), now_moveTo _ text target⟩

theorem finishMove_bounded (h : t.Bounded text) :
    (t.finishMove (t.now text)).Bounded text := by
  obtain ⟨within, inside⟩ := ModeState.switch_within (t.now text) h.anchor h.cursor
    (Mode.hasSelection_of_after (Or.inl rfl))
  have finished := withModes_bounded h within inside
  unfold finishMove
  simp only
  split
  · exact showSelection_bounded finished
  · exact finished

theorem goTo_bounded (o : TextObject) {span : Span} (h : t.Bounded text)
    (hs : span.Within (t.now text).size) :
    (t.goTo o span).Bounded text ∧ (t.goTo o span).now text = t.now text := by
  have forward := hs.forward
  have inside := hs.inside
  unfold goTo
  simp only
  split
  · next shape _ _ _ =>
    have selected := ModeState.setSelection_within (s := t.modes) (o.shapeFor shape) hs.start_le
    let u : Turn := { t with modes := t.modes.setSelection span.start (o.shapeFor shape) }
    have moved : (u.moveTo (max (span.stop - 1) span.start)).Bounded text :=
      moveTo_bounded h.admits selected (by rw [show u.now text = t.now text from rfl]; omega)
    exact ⟨bounded_of_modes moved moved.anchor, now_moveTo _ text _⟩
  · have moved := moveTo_bounded h.admits h.anchor hs.start_le
    exact ⟨bounded_of_modes moved moved.anchor, now_moveTo t text _⟩

theorem argument_bounded (a : Argument) (h : t.Bounded text) :
    (t.argument (t.now text) a).Bounded text := by
  unfold argument takeCounted
  split
  · exact runCommand_bounded _ (bounded_of_modes h h.anchor)
  · have uncounted : { t with command := {} }.Bounded text := bounded_of_modes h h.anchor
    simp only
    split
    · next m =>
      obtain ⟨moved, same⟩ := moveBy_bounded m t.command.totalCount uncounted
      have finished := finishMove_bounded moved
      rw [same] at finished
      exact finished
    · exact finishMove_bounded uncounted
    · next o =>
      split
      · exact emit_bounded uncounted trivial rfl
      · next span _ =>
        obtain ⟨moved, same⟩ := goTo_bounded o uncounted (span.clamp_within _)
        have finished := finishMove_bounded moved
        rw [same] at finished
        exact finished

theorem runEditCommand_bounded (c : EditCommand) (h : t.Bounded text)
    (hm : c.modes.meets t.mode.toModeSet) : (t.runEditCommand (t.now text) c).Bounded text := by
  have inserts : (t.transition .enterInsert).Bounded text := transition_bounded h rfl
  have content := Text.contentStop_le_size (t.now text) t.cursor
  have line := Text.lineStart_le_size (t.now text) t.cursor
  cases c with
  | enterInsert => exact inserts
  | append =>
    refine moveTo_bounded inserts.admits inserts.anchor (Nat.max_le.2 ⟨?_, h.cursor⟩)
    exact Nat.le_trans (Nat.min_le_right _ _) content
  | insertAtLineStart =>
    exact moveTo_bounded inserts.admits inserts.anchor (Text.firstNonBlank_le_size line)
  | appendAtLineEnd => exact moveTo_bounded inserts.admits inserts.anchor content
  | enterReplace => exact transition_bounded h rfl
  | toggleVisual shape =>
    exact showSelection_bounded
      (bounded_of_modes h (ModeState.toggleVisual_within shape h.anchor h.cursor))
  | enterSelect shape =>
    have entered := ModeState.enterSelect_within shape h.anchor h.cursor
    let u : Turn := { t with modes := t.modes.enterSelect shape t.cursor }
    have selecting : u.Bounded text := bounded_of_modes h entered
    unfold runEditCommand
    simp only
    split
    · next further =>
      have next : t.cursor + 1 ≤ (t.now text).size := Nat.le_trans further.2 content
      exact showSelection_bounded (moveTo_bounded (t := u) selecting.admits selecting.anchor next)
    · exact showSelection_bounded selecting
  | toggleSelectVisual =>
    obtain ⟨within, inside⟩ := ModeState.switch_within (t.now text) h.anchor h.cursor
      (Mode.hasSelection_of_after (Or.inr (Or.inl rfl)))
    exact showSelection_bounded (withModes_bounded h within inside)
  | singleVisualCommand =>
    obtain ⟨within, inside⟩ := ModeState.switch_within (t.now text) h.anchor h.cursor
      (Mode.hasSelection_of_after (Or.inr (Or.inr rfl)))
    exact showSelection_bounded (withModes_bounded h within inside)
  | swapEnds =>
    have selects : t.mode.hasSelection := Mode.hasSelection_of_visual (Mode.meets_visual hm)
    obtain ⟨within, inside⟩ := ModeState.swapEnds_within h.anchor selects h.cursor
    let u : Turn := { t with modes := (t.modes.swapEnds t.cursor).1 }
    exact showSelection_bounded (moveTo_bounded (t := u) h.admits within inside)

theorem editCommand_bounded (c : EditCommand) (h : t.Bounded text)
    (hm : c.modes.meets t.mode.toModeSet) : (t.editCommand (t.now text) c).Bounded text := by
  have uncounted : { t with command := {} }.Bounded text := bounded_of_modes h h.anchor
  have ran := runEditCommand_bounded c uncounted hm
  unfold editCommand
  simp only
  split
  · exact ran
  · exact bounded_of_modes ran ran.anchor

theorem run_bounded {f : Handler} (h : t.Bounded text) (hm : f.modes.meets t.mode.toModeSet) :
    (t.run (t.now text) f).Bounded text := by
  cases f with
  | motion m => exact argument_bounded _ h
  | textObject o => exact argument_bounded _ h
  | operator o => exact operator_bounded o h
  | command c => exact editCommand_bounded c h hm
  | extension f => simp [Handler.modes, ModeSet.meets] at hm

theorem typeChar_bounded (c : Char) (h : t.Bounded text) (ha : t.mode.hasSelection = false) :
    (t.typeChar c).Bounded text := by
  unfold typeChar
  simp only
  split
  · refine ⟨admits_emit h.admits h.cursor, ?_, ModeState.within_of_unselected ha⟩
    exact (congrArg Array.size (now_emit t text _)).symm ▸ Text.lt_size_replaceText h.cursor c
  · refine ⟨admits_emit h.admits h.cursor, ?_, ModeState.within_of_unselected ha⟩
    exact (congrArg Array.size (now_emit t text _)).symm ▸ Text.lt_size_insertText h.cursor c

theorem rubOut_bounded (h : t.Bounded text) (ha : t.mode.hasSelection = false) :
    t.rubOut.Bounded text := by
  have within : Span.Within { start := t.cursor - 1, stop := t.cursor } (t.now text).size :=
    ⟨Nat.sub_le _ _, h.cursor⟩
  unfold rubOut
  split
  · exact h
  · simp only
    split
    · exact moveTo_bounded h.admits h.anchor within.start_le
    · exact moveTo_bounded (admits_emit h.admits within) (ModeState.within_of_unselected ha)
        (start_le_size_now within)

theorem insertKey_bounded (k : Key) (h : t.Bounded text) (ha : t.mode.hasSelection = false) :
    (t.insertKey k).Bounded text := by
  unfold insertKey
  split
  · exact transition_bounded h (Mode.after_exit t.modes.mode)
  · exact rubOut_bounded h ha
  · split
    · exact typeChar_bounded _ h ha
    · exact emit_bounded h trivial rfl

theorem replaceSelection_bounded (c : Option Char) (h : t.Bounded text) :
    (t.replaceSelection (t.now text) c).Bounded text := by
  unfold replaceSelection
  split
  · exact h
  · next s _ =>
    let u := ((t.emit (.operate .delete (s.span (t.now text)) s.shape 1 none)).emit
      (.setSelection none)).transition .enterInsert
    have lasting : u.mode.hasSelection = false := rfl
    have removed := deselected_bounded (u := u) h rfl lasting
    cases c with
    | none => exact removed
    | some c =>
      refine ⟨admits_emit removed.admits removed.cursor, ?_, ModeState.within_of_unselected lasting⟩
      exact (congrArg Array.size (now_emit _ text _)).symm ▸
        Text.lt_size_insertText removed.cursor c

theorem selectKey_bounded (k : Key) (h : t.Bounded text) :
    (t.selectKey (t.now text) k).Bounded text := by
  unfold selectKey
  split
  · exact replaceSelection_bounded none h
  · split
    · exact replaceSelection_bounded _ h
    · exact emit_bounded h trivial rfl

end Turn

theorem Turn.Effect.bounded {t t' : Turn} {text : Text} (e : t.Effect (t.now text) t')
    (h : t.Bounded text) : t'.Bounded text := by
  cases e with
  | still => exact h
  | failed => exact Turn.fail_bounded h
  | dropped => exact ⟨h.admits, h.cursor, Turn.dropCommand_within h.anchor⟩
  | left empty idle selects =>
    have exits := Turn.transition_bounded h (Mode.after_exit t.modes.mode)
    exact Turn.emit_bounded exits (by simp [Action.Fits]) rfl
  | grown commands select grows => exact Turn.bounded_of_modes h h.anchor
  | ran meets => exact Turn.run_bounded h meets
  | typed typing k => exact Turn.insertKey_bounded k h (Mode.unselected_of_typing typing)
  | typedOver select k => exact Turn.selectKey_bounded k h

end ModalEditing
