/-! The operators: what is done to the text that an argument picks out. -/

namespace ModalEditing

inductive Operator where
  | delete
  | change
  | yank
  | shiftRight
  | shiftLeft
deriving DecidableEq, Inhabited

namespace Operator

def key : Operator → Char
  | delete => 'd'
  | change => 'c'
  | yank => 'y'
  | shiftRight => '>'
  | shiftLeft => '<'

def label : Operator → String
  | delete => "Delete"
  | change => "Change"
  | yank => "Yank"
  | shiftRight => "ShiftRight"
  | shiftLeft => "ShiftLeft"

def removes : Operator → Bool
  | delete | change => true
  | yank | shiftRight | shiftLeft => false

end Operator

end ModalEditing
