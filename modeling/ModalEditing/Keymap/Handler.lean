import ModalEditing.Action
import ModalEditing.Command.Basic
import ModalEditing.Mode.State

/-! Handlers: what keys finally run. -/

namespace ModalEditing

inductive EditCommand where
  | enterInsert
  | append
  | insertAtLineStart
  | appendAtLineEnd
  | enterReplace
  | toggleVisual (shape : Shape)
  | enterSelect (shape : Shape)
  | toggleSelectVisual
  | singleVisualCommand
  | swapEnds
deriving DecidableEq, Inhabited

structure CommandScope where
  modes : ModeState
  cursor : Nat
  count : Nat
  register : Option Char
  actions : Array Action := #[]

abbrev ExtensionCommand := Text → CommandScope → CommandScope

inductive Handler where
  | motion (m : Motion)
  | operator (o : Operator)
  | command (c : EditCommand)
  | textObject (o : TextObject)
  | extension (run : ExtensionCommand)

def Handler.argument? : Handler → Option Argument
  | motion m => some (.motion m)
  | textObject o => some (.textObject o)
  | operator _ | command _ | extension _ => none

end ModalEditing
