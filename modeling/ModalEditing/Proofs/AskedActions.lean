import ModalEditing.Editor.Handling

/-! What a turn asks of the host, told by the kind of the actions. Most handlers only move the
cursor or the selection, and so ask for nothing of the kinds that have nothing to do with either. -/

namespace ModalEditing

/-- Neither the cursor nor the selection is shown by actions of the kind. -/
structure Action.IgnoresMoves (p : Action → Bool) : Prop where
  cursor : ∀ q, p (.setCursor q) = false
  selection : ∀ s, p (.setSelection s) = false

namespace Turn

variable {p : Action → Bool} {t : Turn} {text : Text}

def asks (p : Action → Bool) (t : Turn) : Bool := t.actions.any p

@[simp] theorem asks_emit (p : Action → Bool) (t : Turn) (a : Action) :
    (t.emit a).asks p = (t.asks p || p a) := by
  simp [asks, emit]

theorem asks_fail (p : Action → Bool) (t : Turn) : t.fail.asks p = (t.asks p || p .bell) :=
  asks_emit p { t with toControl := t.dropCommand } .bell

theorem asks_moveTo (hp : Action.IgnoresMoves p) (t : Turn) (q : Nat) :
    (t.moveTo q).asks p = t.asks p := by
  rw [moveTo, asks_emit, hp.cursor, Bool.or_false]
  rfl

theorem asks_settleAt (hp : Action.IgnoresMoves p) (t : Turn) (q : Nat) :
    (t.settleAt q).asks p = t.asks p := by
  unfold settleAt
  split
  · rfl
  · exact asks_moveTo hp t q

theorem asks_withModes (hp : Action.IgnoresMoves p) (t : Turn) (change : ModeState × Nat) :
    (t.withModes change).asks p = t.asks p :=
  asks_settleAt hp { t with modes := change.1 } change.2

theorem asks_showSelection (hp : Action.IgnoresMoves p) (t : Turn) :
    t.showSelection.asks p = t.asks p := by
  rw [showSelection, asks_emit, hp.selection, Bool.or_false]

theorem asks_goTo (hp : Action.IgnoresMoves p) (t : Turn) (o : TextObject) (span : Span) :
    (t.goTo o span).asks p = t.asks p := by
  unfold goTo
  simp only
  split
  · exact asks_moveTo hp { t with modes := t.modes.setSelection span.start _ } _
  · exact asks_moveTo hp t _

theorem asks_finishMove (hp : Action.IgnoresMoves p) (t : Turn) (text : Text) :
    (t.finishMove text).asks p = t.asks p := by
  have finished := asks_withModes hp t (t.modes.finishCommand text t.cursor)
  unfold finishMove
  simp only
  split
  · exact (asks_showSelection hp _).trans finished
  · exact finished

theorem asks_runEditCommand (hp : Action.IgnoresMoves p) (t : Turn) (text : Text)
    (c : EditCommand) : (t.runEditCommand text c).asks p = t.asks p := by
  cases c with
  | enterInsert => rfl
  | enterReplace => rfl
  | append => exact asks_moveTo hp (t.transition .enterInsert) _
  | insertAtLineStart => exact asks_moveTo hp (t.transition .enterInsert) _
  | appendAtLineEnd => exact asks_moveTo hp (t.transition .enterInsert) _
  | toggleVisual shape => exact asks_showSelection hp { t with modes := _ }
  | enterSelect shape =>
    let u : Turn := { t with modes := t.modes.enterSelect shape t.cursor }
    unfold runEditCommand
    simp only
    split
    · exact (asks_showSelection hp _).trans (asks_moveTo hp u _)
    · exact asks_showSelection hp u
  | toggleSelectVisual => exact (asks_showSelection hp _).trans (asks_withModes hp t _)
  | singleVisualCommand => exact (asks_showSelection hp _).trans (asks_withModes hp t _)
  | swapEnds =>
    exact (asks_showSelection hp _).trans (asks_moveTo hp { t with modes := _ } _)

theorem asks_editCommand (hp : Action.IgnoresMoves p) (t : Turn) (text : Text) (c : EditCommand) :
    (t.editCommand text c).asks p = t.asks p := by
  have ran := asks_runEditCommand hp { t with command := {} } text c
  unfold editCommand
  simp only
  split
  · exact ran
  · exact ran

end Turn

end ModalEditing
