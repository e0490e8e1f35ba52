import ModalEditing.Proofs.CheckedOffsets

/-! Motions in machine words. In a text of fewer than `2 ^ 63` characters they lead to the same
places and give the same spans, for any count that can be typed. -/

namespace ModalEditing

namespace Checked

open Text

variable {t : Text}

def lineAway? (next? : Nat → Option (Option Nat)) (n p : Nat) : Option (Option Nat) := do
  let q ← walk? next? n p
  return moved? p q

theorem lineAway?_eq {next? : Nat → Option (Option Nat)} {next : Nat → Option Nat}
    (step : ∀ p, next? p = some (next p)) (n p : Nat) :
    lineAway? next? n p = some (Motion.lineAway? next n p) := by
  rw [lineAway?, walk?_eq step]
  rfl

def column? (ctx : MotionContext) (cursor start : Nat) : Option Column := do
  let offset ← sub? cursor start
  return ctx.column.getD (.offset offset)

theorem column?_eq {ctx : MotionContext} {cursor start : Nat} (h : start ≤ cursor) :
    column? ctx cursor start = some (ctx.column.getD (.offset (cursor - start))) := by
  rw [column?, sub?_eq h]
  rfl

def vertical? (t : Text) (next? : Nat → Option (Option Nat)) (count cursor start : Nat)
    (ctx : MotionContext) : Option (Option Nat) := do
  match ← lineAway? next? count start with
  | none => some none
  | some line => do
    let c ← column? ctx cursor start
    return some (← placeOnLine? t line c)

theorem vertical?_eq {next? : Nat → Option (Option Nat)} {next : Nat → Option Nat}
    {count cursor start : Nat} {ctx : MotionContext} (step : ∀ p, next? p = some (next p))
    (fits : t.size < limit) (h : start ≤ cursor) (inside : walkLines next count start ≤ t.size) :
    vertical? t next? count cursor start ctx =
      some ((Motion.lineAway? next count start).map
        (t.placeOnLine · (ctx.column.getD (.offset (cursor - start))))) := by
  rw [vertical?, lineAway?_eq step]
  simp only [Option.bind_eq_bind, Option.bind_some]
  cases away : Motion.lineAway? next count start with
  | none => rfl
  | some line =>
    have le : line ≤ t.size := Motion.lineAway?_le inside away
    simp [column?_eq h, placeOnLine?_eq fits le]

def lineEnded? (t : Text) (count start : Nat) : Option Nat :=
  if 1 < count then do
    let further ← sub? count 1
    let away ← lineAway? (lineAfter? t) further start
    return away.getD start
  else some start

theorem lineEnded?_eq {count start : Nat} (fits : t.size < limit) :
    lineEnded? t count start =
      some ((Motion.lineAway? t.lineAfter? (count - 1) start).getD start) := by
  unfold lineEnded?
  split
  · simp [sub?_eq (show 1 ≤ count by omega), lineAway?_eq (lineAfter?_eq fits)]
  · have one : count - 1 = 0 := by omega
    simp [one, Motion.lineAway?, walkLines, moved?]

def target? (m : Motion) (t : Text) (cursor : Nat) (ctx : MotionContext) : Option (Option Nat) := do
  let cursor := min cursor t.size
  let count := max ctx.count 1
  let start ← lineStart? t cursor
  match m with
  | .left =>
    -- meant to stop at zero
    return moved? cursor (max (cursor - count) start)
  | .right => do
    let last ← lastOnLine? t start
    let sum ← add? cursor count
    return if cursor < min sum last then some (min sum last) else none
  | .up => vertical? t (lineBefore? t) count cursor start ctx
  | .down => vertical? t (lineAfter? t) count cursor start ctx
  | .lineStart => return some start
  | .firstNonBlank => return some (← firstNonBlank? t start)
  | .lineEnd => do
    let line ← lineEnded? t count start
    return some (← lastOnLine? t line)
  | .fileStart => do
    let line ← lineNumbered? t (ctx.typed.getD 1)
    return some (← firstNonBlank? t line)
  | .fileEnd => do
    let line ← match ctx.typed with
      | some n => lineNumbered? t n
      | none => lastLine? t
    return some (← firstNonBlank? t line)
  | .wordForward => do
    let q ← repeat? (nextWordStart? t) count cursor
    -- meant to stop at zero, in the empty text
    return moved? cursor (min q (t.size - 1))
  | .wordBackward => do
    let q ← repeat? (prevWordStart? t) count cursor
    return moved? cursor q
  | .wordEnd => do
    let q ← repeat? (nextWordEnd? t) count cursor
    return moved? cursor q

section

variable {m : Motion} {cursor : Nat} {ctx : MotionContext}

theorem nextWordStart?_steps (fits : t.size + 1 < limit) :
    ∀ p ≤ t.size, nextWordStart? t p = some (t.nextWordStart p) ∧ t.nextWordStart p ≤ t.size :=
  fun _ h => ⟨nextWordStart?_eq fits h, nextWordStart_le_size h⟩

theorem target?_eq (fits : t.size < 2 ^ 63) (counted : ctx.count ≤ maxCount) :
    target? m t cursor ctx = some (m.target? t cursor ctx) := by
  have fits' : t.size + 1 < limit := by
    unfold limit
    omega
  have short : t.size < limit := by omega
  have inside : min cursor t.size ≤ t.size := Nat.min_le_right _ _
  have le := t.lineStart_le (min cursor t.size)
  have start := t.lineStart_le_size (min cursor t.size)
  unfold target? Motion.target?
  simp only [lineStart?_eq short, Option.bind_eq_bind, Option.bind_some]
  cases m with
  | left => rfl
  | right =>
    have sum : min cursor t.size + max ctx.count 1 < limit := by
      unfold limit
      simp only [maxCount, UInt32.size] at counted
      omega
    simp only [lastOnLine?_eq short, add?_eq sum, Option.bind_some]
    rfl
  | up =>
    exact vertical?_eq (lineBefore?_eq short) short le
      (Nat.le_trans (walkLines_up_le t _ _) start)
  | down => exact vertical?_eq (lineAfter?_eq short) short le (walkLines_down_le_size _ start)
  | lineStart => rfl
  | firstNonBlank => simp [firstNonBlank?_eq short start]
  | lineEnd => simp [lineEnded?_eq short, lastOnLine?_eq short]
  | fileStart =>
    simp [lineNumbered?_eq short, firstNonBlank?_eq short (t.lineNumbered_le_size _)]
  | fileEnd =>
    cases ctx.typed with
    | none => simp [lastLine?_eq short, firstNonBlank?_eq short t.lastLine_le_size]
    | some n => simp [lineNumbered?_eq short, firstNonBlank?_eq short (t.lineNumbered_le_size n)]
  | wordForward => simp [repeat?_eq (nextWordStart?_steps fits') _ inside]
  | wordBackward =>
    have steps : ∀ p ≤ t.size,
        prevWordStart? t p = some (t.prevWordStart p) ∧ t.prevWordStart p ≤ t.size :=
      fun p h => ⟨prevWordStart?_eq t p, Nat.le_trans (t.prevWordStart_le p) h⟩
    simp [repeat?_eq steps _ inside]
  | wordEnd =>
    have steps : ∀ p ≤ t.size,
        nextWordEnd? t p = some (t.nextWordEnd p) ∧ t.nextWordEnd p ≤ t.size :=
      fun p h => ⟨nextWordEnd?_eq fits' h, nextWordEnd_le_size h⟩
    simp [repeat?_eq steps _ inside]

end

def beforeLineStart? (t : Text) (r : Span) : Option Span := do
  let first ← lineStart? t r.start
  let line ← lineStart? t r.stop
  if r.start < r.stop ∧ r.stop < t.size ∧ line = r.stop ∧ first < r.stop then
    let stop ← sub? r.stop 1
    return if r.start < stop then { r with stop } else r
  else some r

theorem beforeLineStart?_eq (fits : t.size < limit) (r : Span) :
    beforeLineStart? t r = some (Motion.beforeLineStart t r) := by
  have first := t.lineStart_le r.start
  rw [beforeLineStart?, lineStart?_eq fits, lineStart?_eq fits]
  simp only [Option.bind_eq_bind, Option.bind_some]
  unfold Motion.beforeLineStart
  by_cases newline : r.start < r.stop ∧ r.stop < t.size ∧ t.lineStart r.stop = r.stop
  · obtain ⟨some_char, inside, starts⟩ := newline
    rw [if_pos ⟨some_char, inside, starts, by omega⟩, sub?_eq (by omega)]
    simp only [Option.bind_some, pure, Option.some.injEq]
    by_cases more : r.start + 1 < r.stop
    · rw [if_pos (by omega), if_pos ⟨more, inside, starts⟩]
    · rw [if_neg (by omega), if_neg fun h => more h.1]
  · rw [if_neg fun h => newline ⟨h.1, h.2.1, h.2.2.1⟩, if_neg fun h => newline ⟨by omega, h.2⟩]

def exclusiveEnd? (m : Motion) (t : Text) (cursor : Nat) (ctx : MotionContext) :
    Option (Option Nat) :=
  match m with
  | .right => do
    let stop ← contentStop? t cursor
    let sum ← add? cursor (max ctx.count 1)
    return some (min sum stop)
  | .wordForward => do return some (← repeat? (nextWordStart? t) (max ctx.count 1) cursor)
  | _ => target? m t cursor ctx

def span? (m : Motion) (t : Text) (cursor : Nat) (ctx : MotionContext) : Option (Option Span) := do
  let cursor := min cursor t.size
  match m.reach with
  | .lineWise => do
    match ← target? m t cursor ctx with
    | none => some none
    | some target => do
      let start ← lineStart? t (min cursor target)
      let last ← lineStart? t (max cursor target)
      let stop ← lineStop? t last
      return some { start, stop, lineWise := true }
  | .inclusive => do
    let target := (← target? m t cursor ctx).getD cursor
    let lo := min cursor target
    let hi := max cursor target
    let past ← add? hi 1
    let stop ← contentStop? t hi
    return Span.nonempty? { start := lo, stop := max lo (min past (max stop lo)) }
  | .exclusive => do
    match ← exclusiveEnd? m t cursor ctx with
    | none => some none
    | some target => do
      let r ← beforeLineStart? t (Span.between cursor target)
      return r.nonempty?

section

variable {m : Motion} {cursor : Nat} {ctx : MotionContext}

theorem exclusiveEnd?_eq (fits : t.size < 2 ^ 63) (counted : ctx.count ≤ maxCount)
    (h : cursor ≤ t.size) : exclusiveEnd? m t cursor ctx = some (m.exclusiveEnd? t cursor ctx) := by
  have fits' : t.size + 1 < limit := by
    unfold limit
    omega
  unfold exclusiveEnd? Motion.exclusiveEnd?
  cases m with
  | right =>
    have sum : cursor + max ctx.count 1 < limit := by
      unfold limit
      simp only [maxCount, UInt32.size] at counted
      omega
    simp [contentStop?_eq (show t.size < limit by omega), add?_eq sum]
  | wordForward => simp [repeat?_eq (nextWordStart?_steps fits') _ h]
  | _ => exact target?_eq fits counted

/-- In a text of fewer than `2 ^ 63` characters no sum and no difference leaves the machine words,
for any motion, cursor and kept column, and any count that can be typed. -/
theorem span?_eq (fits : t.size < 2 ^ 63) (counted : ctx.count ≤ maxCount) :
    span? m t cursor ctx = some (m.span? t cursor ctx) := by
  have short : t.size < limit := by
    unfold limit
    omega
  have inside : min cursor t.size ≤ t.size := Nat.min_le_right _ _
  unfold span? Motion.span?
  simp only [target?_eq fits counted, exclusiveEnd?_eq fits counted inside, Option.bind_eq_bind,
    Option.bind_some]
  cases m.reach with
  | lineWise =>
    cases m.target? t (min cursor t.size) ctx with
    | none => rfl
    | some target => simp [lineStart?_eq short, lineStop?_eq short]
  | inclusive =>
    have le : (m.target? t (min cursor t.size) ctx).getD (min cursor t.size) ≤ t.size := by
      cases led : m.target? t (min cursor t.size) ctx with
      | none => exact inside
      | some target => exact Motion.target?_le_size led
    generalize (m.target? t (min cursor t.size) ctx).getD (min cursor t.size) = target at le ⊢
    have past : max (min cursor t.size) target + 1 < limit := by
      unfold limit
      omega
    simp only [add?_eq past, contentStop?_eq short, Option.bind_some, pure, Option.some.injEq]
    congr 2
    omega
  | exclusive =>
    cases m.exclusiveEnd? t (min cursor t.size) ctx with
    | none => rfl
    | some target => simp [beforeLineStart?_eq short]

end

end Checked

end ModalEditing
