import ModalEditing.Command.Builder
import ModalEditing.Key.Basic
import ModalEditing.Keymap.Handler

/-! The state of the editor, and a turn: the handling of one input. Between inputs the
editor remembers the mode with the selection, the command being typed, the column of
vertical moves, and the keys that no mapping has resolved yet. -/

namespace ModalEditing

structure Control where
  modes : ModeState := {}
  command : CommandBuilder := {}
  column : Option Column := none
deriving DecidableEq, Inhabited

/-- A key on its way to a mapping. -/
structure Stroke where
  key : Key
  /-- Key-to-key mappings apply. They do not to keys from a mapping that forbids it. -/
  remap : Bool := true
deriving DecidableEq, Inhabited

structure Editor extends Control where
  waiting : List Stroke := []
deriving DecidableEq, Inhabited

/-- The handling of one input: the cursor so far and what the host will be asked for. -/
structure Turn extends Control where
  cursor : Nat
  actions : Array Action := #[]
deriving DecidableEq, Inhabited

namespace Control

def mode (c : Control) : Mode := c.modes.mode

def transition (c : Control) (e : ModeEvent) : Control :=
  { c with modes := c.modes.transition e }

/-- Drops the command being typed. Operator-pending ends with it; other modes stay. -/
def dropCommand (c : Control) : Control :=
  let c := { c with command := {} }
  if c.mode.isOperatorPending then c.transition .exit else c

end Control

namespace Turn

def emit (t : Turn) (a : Action) : Turn := { t with actions := t.actions.push a }

def moveTo (t : Turn) (p : Nat) : Turn := { t with cursor := p }.emit (.setCursor p)

def settleAt (t : Turn) (p : Nat) : Turn := if p = t.cursor then t else t.moveTo p

def transition (t : Turn) (e : ModeEvent) : Turn :=
  { t with toControl := t.toControl.transition e }

def fail (t : Turn) : Turn := { t with toControl := t.dropCommand }.emit .bell

def selection? (t : Turn) : Option Selection := t.modes.selection? t.cursor

def showSelection (t : Turn) : Turn := t.emit (.setSelection t.selection?)

def withModes (t : Turn) (change : ModeState × Nat) : Turn :=
  { t with modes := change.1 }.settleAt change.2

end Turn

end ModalEditing
