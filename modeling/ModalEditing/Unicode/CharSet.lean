/-! Sets of characters given by their bounds: a sorted array of code points at
which membership changes, starting outside the set. A code point belongs to the
set when an odd number of bounds lie at or below it. -/

namespace ModalEditing

structure CharSet where
  bounds : Array Nat

namespace CharSet

/-- Index of the first bound above `n` between the indices `lo` and `hi`, or `hi`. -/
def boundAbove (bounds : Array Nat) (n lo hi : Nat) : Nat :=
  if lo < hi then
    let mid := (lo + hi) / 2
    if bounds.getD mid 0 ≤ n then boundAbove bounds n (mid + 1) hi
    else boundAbove bounds n lo mid
  else lo
termination_by hi - lo

def contains (s : CharSet) (c : Char) : Bool :=
  boundAbove s.bounds c.toNat 0 s.bounds.size % 2 == 1

instance : Membership Char CharSet where
  mem s c := s.contains c = true

instance (s : CharSet) (c : Char) : Decidable (c ∈ s) :=
  inferInstanceAs (Decidable (s.contains c = true))

end CharSet

end ModalEditing
