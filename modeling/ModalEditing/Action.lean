import ModalEditing.Command.Operator
import ModalEditing.Selection

/-! What the editor asks of its host. The editor itself never changes the text. -/

namespace ModalEditing

inductive Action where
  | setCursor (p : Nat)
  | setSelection (s : Option Selection)
  | operate (o : Operator) (span : Span) (shape : Shape) (count : Nat) (register : Option Char)
  | insertText (p : Nat) (s : String)
  | replaceText (p : Nat) (s : String)
  | bell
deriving DecidableEq, Inhabited

def Action.editsText : Action → Bool
  | operate .. | insertText .. | replaceText .. => true
  | setCursor _ | setSelection _ | bell => false

end ModalEditing
