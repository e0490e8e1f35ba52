import ModalEditing.Text.Basic
import ModalEditing.Text.Cluster

/-! Rows of a text on a screen. Unlike a line of the editor, a row ends with any of the line
ends of the standard; a carriage return and the newline after it are one end. -/

namespace ModalEditing

def endsRow (c : Char) : Bool :=
  ('\n' ≤ c && c ≤ '\r') || c == '\u0085' || c == '\u2028' || c == '\u2029'

namespace Text

def isRowStart (t : Text) : Nat → Bool
  | 0 => true
  | p + 1 => t[p]?.any fun c => endsRow c && !(c == '\r' && t[p + 1]? == some '\n')

def rowOf (t : Text) (p : Nat) : Nat := ((List.range p).filter fun q => t.isRowStart (q + 1)).length

def rowStart (t : Text) (p : Nat) : Nat :=
  if t.isRowStart p then p
  else match p with
    | 0 => 0
    | q + 1 => rowStart t q

def rowStarts (t : Text) (p q : Nat) : List Nat :=
  (List.range (q + 1)).filter fun r => t.isRowStart r && t.rowStart p ≤ r

/-- The row and the column on a screen of an offset. Columns count grapheme clusters. -/
def place (t : Text) (p : Nat) : Nat × Nat :=
  let p := min p t.size
  (t.rowOf p, Cluster.count (t.slice (t.rowStart p) p).toList)

end Text

end ModalEditing
