import ModalEditing.Text.Basic

/-! Lines of a text. A newline ends the line it stands on, and nothing but a newline
does; a newline at the very end opens no further line. The lines are found by walking
from an offset, so no table of them is kept. -/

namespace ModalEditing

def isBlank (c : Char) : Bool := c == ' ' || c == '\t'

/-- The start of a line, with the blanks that open the line and lie before the offset from which
the start was found. -/
structure LineStart where
  offset : Nat
  leadingBlanks : Nat
deriving DecidableEq, Inhabited

namespace Text

/-- Goes back from `p` to zero or just past a newline, and counts blanks anew after each other
character. -/
def startBelow (t : Text) : (p blanks : Nat) → LineStart
  | 0, blanks => { offset := 0, leadingBlanks := blanks }
  | p + 1, blanks =>
    if t[p]? = some '\n' then { offset := p + 1, leadingBlanks := blanks }
    else startBelow t p (if t[p]?.any isBlank then blanks + 1 else 0)

def startAround (t : Text) (p : Nat) : LineStart := startBelow t (min p t.size) 0

def lineStart (t : Text) (p : Nat) : Nat := (t.startAround p).offset

def lineStop (t : Text) (p : Nat) : Nat :=
  if h : p < t.size then
    if t[p] = '\n' then p + 1 else lineStop t (p + 1)
  else t.size
termination_by t.size - p

/-- The newline that ends the line around `p`, or the end of the text. -/
def contentStop (t : Text) (p : Nat) : Nat :=
  let stop := lineStop t p
  if p < stop ∧ t[stop - 1]? = some '\n' then stop - 1 else stop

def blanksFrom (t : Text) (p : Nat) : Nat :=
  if h : p < t.size then
    if isBlank t[p] then blanksFrom t (p + 1) + 1 else 0
  else 0
termination_by t.size - p

def firstNonBlank (t : Text) (p : Nat) : Nat := p + blanksFrom t p

def lineBefore? (t : Text) (p : Nat) : Option Nat :=
  if p = 0 then none else some (lineStart t (p - 1))

def lineAfter? (t : Text) (p : Nat) : Option Nat :=
  if lineStop t p < t.size then some (lineStop t p) else none

/-- The last character of the line that starts at `p`, or `p` if the line is empty. -/
def lastOnLine (t : Text) (p : Nat) : Nat :=
  if p < contentStop t p then contentStop t p - 1 else p

def lastLine (t : Text) : Nat :=
  let start := lineStart t t.size
  if start = t.size ∧ t.size > 0 then lineStart t (t.size - 1) else start

def walkLines (next? : Nat → Option Nat) : Nat → Nat → Nat
  | 0, p => p
  | n + 1, p =>
    match next? p with
    | some q => walkLines next? n q
    | none => p

def lineNumbered (t : Text) (n : Nat) : Nat := walkLines t.lineAfter? (n - 1) 0

theorem startBelow_le (t : Text) (p blanks : Nat) : (t.startBelow p blanks).offset ≤ p := by
  induction p generalizing blanks with
  | zero => exact Nat.le_refl 0
  | succ p ih =>
    rw [startBelow]
    split
    · exact Nat.le_refl _
    · exact Nat.le_succ_of_le (ih _)

theorem lineStart_le (t : Text) (p : Nat) : t.lineStart p ≤ p :=
  Nat.le_trans (startBelow_le t _ 0) (Nat.min_le_left _ _)

theorem lineStart_le_size (t : Text) (p : Nat) : t.lineStart p ≤ t.size :=
  Nat.le_trans (startBelow_le t _ 0) (Nat.min_le_right _ _)

theorem lineStop_le_size (t : Text) (p : Nat) : t.lineStop p ≤ t.size := by
  fun_induction lineStop t p <;> omega

theorem lt_lineStop {t : Text} {p : Nat} (h : p < t.size) : p < t.lineStop p := by
  fun_induction lineStop t p with
  | case1 => omega
  | case2 p _ _ ih =>
    by_cases hp : p + 1 < t.size
    · have := ih hp
      omega
    · rw [lineStop, dif_neg hp]
      exact h
  | case3 => contradiction

theorem lineBefore?_lt {t : Text} {p q : Nat} (h : t.lineBefore? p = some q) : q < p := by
  unfold lineBefore? at h
  split at h
  · contradiction
  · have := lineStart_le t (p - 1)
    simp only [Option.some.injEq] at h
    omega

end Text

end ModalEditing
