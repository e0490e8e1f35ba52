import ModalEditing.Unicode.ClusterClass

/-! Grapheme clusters: what readers take for single characters, by the extended rules of
the standard annex on text segmentation. Whether a cluster ends between two characters hangs
on the one after and on a few before, which are given here from the last one back. -/

namespace ModalEditing.Cluster

open Unicode

def zeroWidthJoiner : Char := '\u200d'

def zeroWidthNonJoiner : Char := '\u200c'

def within (ranges : List (Nat × Nat)) (c : Char) : Bool :=
  ranges.any fun (lo, hi) => lo ≤ c.toNat ∧ c.toNat ≤ hi

def isLeading : Char → Bool := within [(0x1100, 0x115f), (0xa960, 0xa97c)]

def isVowel : Char → Bool := within [(0x1160, 0x11a7), (0xd7b0, 0xd7c6), (0x16d63, 0x16d63), (0x16d67, 0x16d6a)]

def isTrailing : Char → Bool := within [(0x11a8, 0x11ff), (0xd7cb, 0xd7fb)]

def isSyllable : Char → Bool := within [(0xac00, 0xd7a3)]

def isOpenSyllable (c : Char) : Bool := isSyllable c && (c.toNat - 0xac00) % 28 == 0

def joinsSyllable (c d : Char) : Bool :=
  (isLeading c && (isLeading d || isVowel d || isSyllable d))
    || ((isOpenSyllable c || isVowel c) && (isVowel d || isTrailing d))
    || ((isSyllable c || isTrailing c) && isTrailing d)

def staysInConjunct (c : Char) : Bool :=
  c ∈ conjunctLinker || ((c ∈ extending || c == zeroWidthJoiner) && c != zeroWidthNonJoiner)

def opensConjunct (past : List Char) : Bool :=
  (past.takeWhile staysInConjunct).any (· ∈ conjunctLinker)
    && (past.dropWhile staysInConjunct).head?.any (· ∈ conjunctConsonant)

def opensEmoji : List Char → Bool
  | c :: past =>
    c == zeroWidthJoiner && (past.dropWhile (· ∈ extending)).head?.any (· ∈ pictographic)
  | [] => false

def isRegional : Char → Bool := within [(0x1f1e6, 0x1f1ff)]

def opensFlag (past : List Char) : Bool := (past.takeWhile isRegional).length % 2 == 1

/-- The character `d` belongs to the cluster of the characters before it. -/
def joins (past : List Char) (d : Char) : Bool :=
  match past with
  | [] => false
  | c :: _ =>
    if c = '\r' ∧ d = '\n' then true
    else if c ∈ controlling ∨ d ∈ controlling then false
    else joinsSyllable c d || d ∈ attaching || c ∈ preceding
      || (d ∈ conjunctConsonant && opensConjunct past)
      || (d ∈ pictographic && opensEmoji past)
      || (isRegional d && opensFlag past)

/-- The clusters that begin in `cs`, given the characters before. -/
def countAfter (past : List Char) : List Char → Nat
  | [] => 0
  | c :: cs => (if joins past c then 0 else 1) + countAfter (c :: past) cs

def count (cs : List Char) : Nat := countAfter [] cs

end ModalEditing.Cluster
