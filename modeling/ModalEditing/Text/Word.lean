import ModalEditing.Text.Basic
import ModalEditing.Unicode.Alphanumeric
import ModalEditing.Unicode.Space

/-! Words: runs of characters of one class, apart from white space. An empty line
counts as a word when moving to word starts. -/

namespace ModalEditing

inductive CharClass where
  | space
  | word
  | punctuation
deriving DecidableEq, Inhabited

def CharClass.of (c : Char) : CharClass :=
  if c ∈ Unicode.whiteSpace then .space
  else if c ∈ Unicode.alphanumeric ∨ c = '_' then .word
  else .punctuation

namespace Text

def classAt? (t : Text) (p : Nat) : Option CharClass := t[p]?.map CharClass.of

def isEmptyLine (t : Text) (p : Nat) : Bool :=
  t[p]? == some '\n' && (p == 0 || t[p - 1]? == some '\n')

def runStop (t : Text) (k : CharClass) (p : Nat) : Nat :=
  if h : p < t.size then
    if CharClass.of t[p] = k then runStop t k (p + 1) else p
  else p
termination_by t.size - p

def runStart (t : Text) (k : CharClass) : Nat → Nat
  | 0 => 0
  | p + 1 => if t.classAt? p = some k then runStart t k p else p + 1

/-- Passes over white space from `p` on, but not over an empty line. -/
def skipSpace (t : Text) (p : Nat) : Nat :=
  if h : p < t.size then
    if CharClass.of t[p] = .space ∧ t.isEmptyLine p = false then skipSpace t (p + 1) else p
  else p
termination_by t.size - p

def skipSpaceBack (t : Text) : Nat → Nat
  | 0 => 0
  | p + 1 =>
    if t.classAt? (p + 1) = some .space ∧ t.isEmptyLine (p + 1) = false then skipSpaceBack t p
    else p + 1

def nextWordStart (t : Text) (p : Nat) : Nat :=
  match t.classAt? p with
  | some .space => t.skipSpace (if t.isEmptyLine p then p + 1 else p)
  | some k => t.skipSpace (t.runStop k p)
  | none => p

def prevWordStart (t : Text) (p : Nat) : Nat :=
  let q := t.skipSpaceBack (p - 1)
  match t.classAt? q with
  | some .space | none => q
  | some k => t.runStart k q

def nextWordEnd (t : Text) (p : Nat) : Nat :=
  let q := t.runStop .space (p + 1)
  match t.classAt? q with
  | some k => t.runStop k q - 1
  | none => p

/-- Takes up to `n` steps from `p`, stopping once a step stays in place. -/
def stepMany (next : Nat → Nat) : Nat → Nat → Nat
  | 0, p => p
  | n + 1, p => if next p = p then p else stepMany next n (next p)

end Text

end ModalEditing
