import ModalEditing.Text.Line
import ModalEditing.Text.Span
import ModalEditing.Text.Word

/-! Motions of the cursor. `Motion.target?` says where a motion leads; as the argument of
an operator it picks out the span `Motion.span?` between the cursor and its target, which
the motion's `Reach` rounds at the end. -/

namespace ModalEditing

inductive Motion where
  | left
  | right
  | up
  | down
  | lineStart
  | firstNonBlank
  | lineEnd
  | fileStart
  | fileEnd
  | wordForward
  | wordBackward
  | wordEnd
deriving DecidableEq, Inhabited

inductive Reach where
  | exclusive
  | inclusive
  | lineWise
deriving DecidableEq, Inhabited

inductive Column where
  | offset (n : Nat)
  | last
deriving DecidableEq, Inhabited

structure MotionContext where
  count : Nat := 1
  /-- The count as typed. Some motions read it as a line number. -/
  typed : Option Nat := none
  column : Option Column := none
deriving DecidableEq, Inhabited

def MotionContext.repeating (count : Nat) : MotionContext := { count := max count 1 }

def Text.placeOnLine (t : Text) (p : Nat) : Column → Nat
  | .offset n => min (p + n) (t.lastOnLine p)
  | .last => t.lastOnLine p

def moved? (p q : Nat) : Option Nat := if q = p then none else some q

namespace Motion

def reach : Motion → Reach
  | left | right | lineStart | firstNonBlank | wordForward | wordBackward => .exclusive
  | lineEnd | wordEnd => .inclusive
  | up | down | fileStart | fileEnd => .lineWise

def isVertical (m : Motion) : Bool := m == up || m == down

def lineAway? (next? : Nat → Option Nat) (n p : Nat) : Option Nat :=
  moved? p (Text.walkLines next? n p)

/-- Where the motion leads from `cursor`, or `none` if it cannot move. -/
def target? (m : Motion) (t : Text) (cursor : Nat) (ctx : MotionContext) : Option Nat :=
  let cursor := min cursor t.size
  let count := max ctx.count 1
  let start := t.lineStart cursor
  let column := ctx.column.getD (.offset (cursor - start))
  match m with
  | left => moved? cursor (max (cursor - count) start)
  | right =>
    let target := min (cursor + count) (t.lastOnLine start)
    if cursor < target then some target else none
  | up => (lineAway? t.lineBefore? count start).map (t.placeOnLine · column)
  | down => (lineAway? t.lineAfter? count start).map (t.placeOnLine · column)
  | lineStart => some start
  | firstNonBlank => some (t.firstNonBlank start)
  | lineEnd => some (t.lastOnLine ((lineAway? t.lineAfter? (count - 1) start).getD start))
  | fileStart => some (t.firstNonBlank (t.lineNumbered (ctx.typed.getD 1)))
  | fileEnd => some (t.firstNonBlank ((ctx.typed.map t.lineNumbered).getD t.lastLine))
  | wordForward => moved? cursor (min (Text.stepMany t.nextWordStart count cursor) (t.size - 1))
  | wordBackward => moved? cursor (Text.stepMany t.prevWordStart count cursor)
  | wordEnd => moved? cursor (Text.stepMany t.nextWordEnd count cursor)

/-- A span that would end just past a newline ends before it, unless nothing would be left. -/
def beforeLineStart (t : Text) (r : Span) : Span :=
  if r.start + 1 < r.stop ∧ r.stop < t.size ∧ t.lineStart r.stop = r.stop then
    { r with stop := r.stop - 1 }
  else r

/-- Where an exclusive motion ends for an operator, which may take the last character of a
line and of the text. -/
def exclusiveEnd? (m : Motion) (t : Text) (cursor : Nat) (ctx : MotionContext) : Option Nat :=
  match m with
  | right => some (min (cursor + max ctx.count 1) (t.contentStop cursor))
  | wordForward => some (Text.stepMany t.nextWordStart (max ctx.count 1) cursor)
  | _ => m.target? t cursor ctx

def span? (m : Motion) (t : Text) (cursor : Nat) (ctx : MotionContext) : Option Span :=
  let cursor := min cursor t.size
  match m.reach with
  | .lineWise => do
    let target ← m.target? t cursor ctx
    return { start := t.lineStart (min cursor target)
             stop := t.lineStop (t.lineStart (max cursor target))
             lineWise := true }
  | .inclusive =>
    let target := (m.target? t cursor ctx).getD cursor
    let lo := min cursor target
    let hi := max cursor target
    Span.nonempty? { start := lo, stop := max lo (min (hi + 1) (t.contentStop hi)) }
  | .exclusive => do
    let target ← m.exclusiveEnd? t cursor ctx
    Span.nonempty? (beforeLineStart t (Span.between cursor target))

end Motion

def Text.wholeLines (t : Text) (cursor count : Nat) : Span :=
  let start := t.lineStart cursor
  { start
    stop := t.lineStop (Text.walkLines t.lineAfter? (count - 1) start)
    lineWise := true }

end ModalEditing
