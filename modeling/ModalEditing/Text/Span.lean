/-! A span of text between two offsets, the second one left out. -/

namespace ModalEditing

structure Span where
  start : Nat
  stop : Nat
  lineWise : Bool := false
deriving DecidableEq, Inhabited

namespace Span

def between (a b : Nat) : Span := { start := min a b, stop := max a b }

def length (r : Span) : Nat := r.stop - r.start

def isEmpty (r : Span) : Bool := r.start == r.stop

def contains (r : Span) (p : Nat) : Bool := r.start ≤ p && p < r.stop

def covers (r other : Span) : Bool := r.start ≤ other.start && other.stop ≤ r.stop

def clamp (r : Span) (size : Nat) : Span :=
  { r with start := min r.start (min r.stop size), stop := min r.stop size }

def nonempty? (r : Span) : Option Span := if r.isEmpty then none else some r

theorem clamp_stop_le (r : Span) (size : Nat) : (r.clamp size).stop ≤ size :=
  Nat.min_le_right _ _

theorem clamp_start_le_stop (r : Span) (size : Nat) :
    (r.clamp size).start ≤ (r.clamp size).stop :=
  Nat.min_le_right _ _

theorem clamp_eq_self {r : Span} {size : Nat} (h : r.start ≤ r.stop) (hs : r.stop ≤ size) :
    r.clamp size = r := by
  simp [clamp, Nat.min_eq_left hs, Nat.min_eq_left h]

end Span

end ModalEditing
