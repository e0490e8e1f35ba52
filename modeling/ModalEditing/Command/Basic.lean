import ModalEditing.Command.Operator
import ModalEditing.Motion
import ModalEditing.TextObject.Basic

/-! Commands: an operator, if any, with its argument, a count and a register. -/

namespace ModalEditing

/-- Counts above this one are cut to it. -/
def maxCount : Nat := UInt32.size - 1

inductive Argument where
  | motion (m : Motion)
  /-- Whole lines from the cursor's line down: the operator key typed twice. -/
  | wholeLines
  | textObject (o : TextObject)

namespace Argument

/-- Whether two arguments are known to be the same. Of two text objects that is never known. -/
def same : Argument → Argument → Bool
  | motion m, motion n => m == n
  | wholeLines, wholeLines => true
  | _, _ => false

def span? (a : Argument) (t : Text) (cursor : Nat) (ctx : MotionContext) : Option Span :=
  match a with
  | motion m => m.span? t cursor ctx
  | wholeLines => some (t.wholeLines cursor ctx.count)
  | textObject o => (o.find? t cursor ctx.count).map (·.clamp t.size)

end Argument

structure Command where
  count : Nat
  typed : Option Nat
  register : Option Char
  operator : Option Operator
  argument : Argument

def Command.context (c : Command) (column : Option Column) : MotionContext :=
  { count := c.count, typed := c.typed, column }

end ModalEditing
