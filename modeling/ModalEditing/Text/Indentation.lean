import ModalEditing.Text.Line

/-! Indentation of lines. `IndentScan` reads a text one character at a time and tells
each line by its indentation as soon as its first non-blank character, or its end, is
seen. The searches look for a line with text on it whose indentation fits. -/

namespace ModalEditing

inductive IndentPhase where
  | afterNewline
  | inBlank
  | inText
deriving DecidableEq, Inhabited

inductive IndentStep where
  | more
  | blank (start : Nat)
  | indented (start width : Nat)
deriving DecidableEq, Inhabited

structure IndentScan where
  phase : IndentPhase := .afterNewline
  lineStart : Nat
  width : Nat := 0
deriving DecidableEq, Inhabited

def IndentScan.step (s : IndentScan) (p : Nat) (c : Char) : IndentScan × IndentStep :=
  match s.phase with
  | .inText => if c = '\n' then ({ lineStart := p + 1 }, .more) else (s, .more)
  | _ =>
    if c = '\n' then ({ lineStart := p + 1 }, .blank s.lineStart)
    else if isBlank c then ({ s with phase := .inBlank, width := s.width + 1 }, .more)
    else ({ s with phase := .inText }, .indented s.lineStart s.width)

/-- Reads the text from `p` on and tells each step with the phase that it left. -/
def IndentScan.trace (t : Text) (s : IndentScan) (p : Nat) : List (IndentStep × IndentPhase) :=
  if h : p < t.size then
    let (s', step) := s.step p t[p]
    (step, s'.phase) :: trace t s' (p + 1)
  else []
termination_by t.size - p

def IndentScan.find? (t : Text) (fits : Nat → Bool) (s : IndentScan) (p : Nat) : Option Nat :=
  if h : p < t.size then
    match s.step p t[p] with
    | (s', .indented start width) => if fits width then some start else find? t fits s' (p + 1)
    | (s', _) => find? t fits s' (p + 1)
  else none
termination_by t.size - p

def IndentScan.width? (t : Text) (s : IndentScan) (p : Nat) : Option Nat :=
  if h : p < t.size then
    match s.step p t[p] with
    | (s', .more) => width? t s' (p + 1)
    | (_, .blank _) => none
    | (_, .indented _ width) => some width
  else none
termination_by t.size - p

namespace Text

/-- The indentation of the line that starts at `p`, or `none` if it has blanks only. -/
def indent? (t : Text) (p : Nat) : Option Nat := IndentScan.width? t { lineStart := p } p

def findFrom? (t : Text) (fits : Nat → Bool) (p : Nat) : Option Nat :=
  IndentScan.find? t fits { lineStart := p } p

def findAbove? (t : Text) (fits : Nat → Bool) (p : Nat) : Option Nat :=
  match _h : t.lineBefore? p with
  | none => none
  | some q => if (t.indent? q).any fits then some q else findAbove? t fits q
termination_by p
decreasing_by exact lineBefore?_lt _h

end Text

end ModalEditing
