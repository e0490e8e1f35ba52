import ModalEditing.Mode.Basic

/-! The mode together with the anchor of the selection. When Visual and Select trade
places the far end of the selection moves by one character, since Visual may include the
character there and Select never does. -/

namespace ModalEditing

structure ModeState where
  mode : Mode := .normal
  anchor : Option Nat := none
  endRule : EndRule := .inclusive
deriving DecidableEq, Inhabited

namespace ModeState

def transition (s : ModeState) (e : ModeEvent) : ModeState :=
  let mode := s.mode.after e
  { s with mode, anchor := if mode.hasSelection then s.anchor else none }

def enterVisual (s : ModeState) (shape : Shape) (next : LastingMode) (cursor : Nat) : ModeState :=
  { s.transition (.enterVisual shape next) with anchor := some cursor }

def toggleVisual (s : ModeState) (shape : Shape) (cursor : Nat) : ModeState :=
  let s' := s.transition (.toggleVisual shape)
  if s'.mode.isVisual ∧ ¬ s.mode.hasSelection then { s' with anchor := some cursor } else s'

/-- Enters Select; a selection that is there already keeps its anchor. -/
def enterSelect (s : ModeState) (shape : Shape) (cursor : Nat) : ModeState :=
  let s' := s.transition (.enterSelect shape)
  if s.mode.hasSelection then s' else { s' with anchor := some cursor }

/-- The far end one character on, for Select, which leaves the character there out. -/
def widen (s : ModeState) (anchor size cursor : Nat) : ModeState × Nat :=
  if anchor ≤ cursor then (s, min (cursor + 1) size)
  else ({ s with anchor := some (min (anchor + 1) size) }, cursor)

/-- The far end one character back, for Visual, which takes the character there in. -/
def narrow (s : ModeState) (anchor cursor : Nat) : ModeState × Nat :=
  if anchor < cursor then (s, cursor - 1)
  else if cursor < anchor then ({ s with anchor := some (anchor - 1) }, cursor)
  else (s, cursor)

/-- Changes the mode, and moves the far end of the selection if Visual and Select have
traded places, so that the same text stays covered. -/
def switch (s : ModeState) (e : ModeEvent) (t : Text) (cursor : Nat) : ModeState × Nat :=
  let s' := s.transition e
  match s.mode.shape?, s'.anchor with
  | some shape, some anchor =>
    if s.endRule = .inclusive ∧ shape ≠ .line then
      if s.mode.isVisual && s'.mode.isSelect then s'.widen anchor t.size cursor
      else if s.mode.isSelect && s'.mode.isVisual then s'.narrow anchor cursor
      else (s', cursor)
    else (s', cursor)
  | _, _ => (s', cursor)

def toggleSelectVisual (s : ModeState) (t : Text) (cursor : Nat) : ModeState × Nat :=
  s.switch .toggleSelectVisual t cursor

def singleVisualCommand (s : ModeState) (t : Text) (cursor : Nat) : ModeState × Nat :=
  s.switch .singleVisualCommand t cursor

def finishCommand (s : ModeState) (t : Text) (cursor : Nat) : ModeState × Nat :=
  s.switch .commandDone t cursor

def swapEnds (s : ModeState) (cursor : Nat) : ModeState × Nat :=
  match s.anchor with
  | some anchor => ({ s with anchor := some cursor }, anchor)
  | none => (s, cursor)

def setSelection (s : ModeState) (anchor : Nat) (shape : Shape) : ModeState :=
  match s.mode with
  | .visual _ next oneShot =>
    { s with mode := .visual shape next oneShot, anchor := some anchor }
  | _ => { s with anchor := some anchor }

def selection? (s : ModeState) (cursor : Nat) : Option Selection :=
  s.mode.shape?.map fun shape =>
    { anchor := s.anchor.getD cursor
      head := cursor
      shape
      exclusive := s.mode.isSelect || s.endRule == .exclusive }

/-- What a host or an extension may do to modes and cursor. -/
inductive Step where
  | transition (e : ModeEvent)
  | enterVisual (shape : Shape) (next : LastingMode)
  | toggleVisual (shape : Shape)
  | enterSelect (shape : Shape)
  | toggleSelectVisual
  | singleVisualCommand
  | finishCommand
  | swapEnds
  | setSelection (anchor : Nat) (shape : Shape)
  | move (p : Nat)
deriving DecidableEq

def perform (s : ModeState) (t : Text) (cursor : Nat) : Step → ModeState × Nat
  | .transition e => (s.transition e, cursor)
  | .enterVisual shape next => (s.enterVisual shape next cursor, cursor)
  | .toggleVisual shape => (s.toggleVisual shape cursor, cursor)
  | .enterSelect shape => (s.enterSelect shape cursor, cursor)
  | .toggleSelectVisual => s.toggleSelectVisual t cursor
  | .singleVisualCommand => s.singleVisualCommand t cursor
  | .finishCommand => s.finishCommand t cursor
  | .swapEnds => s.swapEnds cursor
  | .setSelection anchor shape => (s.setSelection anchor shape, cursor)
  | .move p => (s, p)

end ModeState

end ModalEditing
