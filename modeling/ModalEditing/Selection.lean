import ModalEditing.Text.Line
import ModalEditing.Text.Span

/-! A selection reaches from its anchor, where it was begun, to its head, the cursor.
`Selection.span` is the text that it covers, `Span.shapeIn` the shape that a host's
own selection has. -/

namespace ModalEditing

inductive Shape where
  | character
  | line
  | block
deriving DecidableEq, Inhabited

inductive EndRule where
  | inclusive
  | exclusive
deriving DecidableEq, Inhabited

structure Selection where
  anchor : Nat
  head : Nat
  shape : Shape
  exclusive : Bool
deriving DecidableEq, Inhabited

def Selection.span (s : Selection) (t : Text) : Span :=
  let lo := min (min s.anchor s.head) t.size
  let hi := min (max s.anchor s.head) t.size
  match s.shape with
  | .line => { start := t.lineStart lo, stop := t.lineStop hi, lineWise := true }
  | .character | .block =>
    { start := lo, stop := if s.exclusive then hi else min (hi + 1) t.size }

/-- A block if the host shows one; else lines if the span starts one and ends just past a
newline or with the text; else characters. -/
def Span.shapeIn (r : Span) (t : Text) (block : Bool) : Shape :=
  if block then .block
  else
    let r := r.clamp t.size
    if ¬ r.isEmpty ∧ t.lineStart r.start = r.start
        ∧ (r.stop = t.size ∨ t[r.stop - 1]? = some '\n') then .line
    else .character

end ModalEditing
