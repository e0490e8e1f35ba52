import ModalEditing.Text.Indentation
import ModalEditing.TextObject.Basic

/-! The block of lines around the cursor that are indented at least as far as the line of
the cursor. Blank lines within count in; the less indented lines that bound the block above
and below count in on demand. Without such a line the block reaches to the end of the text. -/

namespace ModalEditing

structure IndentBlock where
  above : Bool := false
  below : Bool := false
deriving DecidableEq, Inhabited

namespace IndentBlock

def inner : IndentBlock := {}

def withAbove : IndentBlock := { above := true }

def withBoth : IndentBlock := { above := true, below := true }

/-- The first line with text from the line start `p` on, or else `limit`. -/
def skipBlankLines (t : Text) (limit p : Nat) : Nat :=
  if _h : p < min limit t.size then
    if t.indent? p = none then skipBlankLines t limit (t.lineStop p) else p
  else p
termination_by t.size - p
decreasing_by
  have := Text.lt_lineStop (t := t) (p := p) (by omega)
  omega

/-- The blanks that open the line. They have been counted already where another character stands
between them and the cursor, from which the start of the line was found. -/
def indentOf (t : Text) (line : LineStart) (cursor : Nat) : Nat :=
  if line.leadingBlanks < cursor - line.offset then line.leadingBlanks
  else t.blanksFrom line.offset

def span (b : IndentBlock) (t : Text) (cursor : Nat) : Span :=
  let cursor := min cursor t.size
  let line := t.startAround cursor
  let indent := indentOf t line cursor
  let start :=
    match t.findAbove? (· < indent) line.offset with
    | none => 0
    | some bound => if b.above then bound else skipBlankLines t line.offset (t.lineStop bound)
  let stop :=
    match (t.lineAfter? line.offset).bind (t.findFrom? (· < indent)) with
    | none => t.size
    | some bound => if b.below then t.lineStop bound else bound
  { start, stop, lineWise := true }

def toTextObject (b : IndentBlock) : TextObject where
  find? t cursor _ := some (b.span t cursor)
  shape := .line

end IndentBlock

end ModalEditing
