import ModalEditing.Proofs.CheckedSpans
import ModalEditing.Proofs.OperatedBlocks
import ModalEditing.Proofs.RestingPlaces

/-! The spans of motions. Whatever the motion, a span of characters has at least one of them and
touches the cursor, and a span of lines is made of whole lines, among them that of the cursor and
that of the place the motion leads to. -/

namespace ModalEditing

namespace Text

variable {t : Text} {p q : Nat} {r : Span}

theorem lineStop_mono (hq : q ≤ t.size) (h : p ≤ q) : t.lineStop p ≤ t.lineStop q := by
  rcases t.lineStop_starts_or_ends q with starts | ends
  · rcases Nat.lt_or_eq_of_le (Nat.le_trans h (le_lineStop hq)) with before | same
    · exact starts.lineStop_le before
    · obtain rfl : p = q := Nat.le_antisymm h (same ▸ le_lineStop hq)
      exact Nat.le_refl _
  · rw [ends]
    exact t.lineStop_le_size p

theorem covers_line (start : r.start ≤ t.lineStart p)
    (stop : t.lineStop (t.lineStart p) ≤ r.stop) : r.covers (t.wholeLines p 1) := by
  simp only [Span.covers, Bool.and_eq_true, decide_eq_true_eq]
  exact ⟨start, stop⟩

end Text

/-- The span takes at least one character and touches the place `p`, or stops one before it. -/
structure Span.Touches (r : Span) (p : Nat) : Prop where
  filled : r.start < r.stop
  start : r.start ≤ p
  stop : p ≤ r.stop + 1

theorem Span.nonempty?_eq_some {r s : Span} (h : r.nonempty? = some s) :
    s = r ∧ r.start ≠ r.stop := by
  unfold nonempty? at h
  split at h
  · contradiction
  · next filled =>
    refine ⟨(Option.some.inj h).symm, fun same => filled ?_⟩
    rw [isEmpty, same, beq_self_eq_true]

namespace Motion

open Text

variable {m : Motion} {t : Text} {cursor p q : Nat} {ctx : MotionContext} {r : Span}

theorem beforeLineStart_lineWise (t : Text) (r : Span) :
    (beforeLineStart t r).lineWise = r.lineWise := by
  unfold beforeLineStart
  split <;> rfl

theorem span?_lineWise_eq (h : m.span? t cursor ctx = some r) :
    r.lineWise = true ↔ m.reach = .lineWise := by
  unfold span? at h
  cases reach : m.reach with
  | lineWise =>
    simp only [reach] at h
    obtain ⟨_, _, hr⟩ := Option.bind_eq_some_iff.1 h
    simp [← Option.some.inj hr]
  | inclusive =>
    simp only [reach] at h
    obtain ⟨rfl, _⟩ := Span.nonempty?_eq_some h
    simp
  | exclusive =>
    simp only [reach] at h
    obtain ⟨_, _, hr⟩ := Option.bind_eq_some_iff.1 h
    obtain ⟨rfl, _⟩ := Span.nonempty?_eq_some hr
    simp [beforeLineStart_lineWise, Span.between]

theorem span?_touches (h : m.span? t cursor ctx = some r) (chars : m.reach ≠ .lineWise) :
    r.Touches (min cursor t.size) := by
  have forward := (span?_within h).forward
  have inside : min cursor t.size ≤ t.size := Nat.min_le_right _ _
  unfold span? at h
  cases reach : m.reach with
  | lineWise => exact absurd reach chars
  | inclusive =>
    simp only [reach] at h
    obtain ⟨rfl, filled⟩ := Span.nonempty?_eq_some h
    refine ⟨Nat.lt_of_le_of_ne forward filled, Nat.min_le_left _ _, ?_⟩
    -- the last character of the span is no further back than the cursor
    have le : max (min cursor t.size)
        ((m.target? t (min cursor t.size) ctx).getD (min cursor t.size)) ≤ t.size := by
      cases led : m.target? t (min cursor t.size) ctx with
      | none => simp
      | some q => exact Nat.max_le.2 ⟨inside, target?_le_size led⟩
    have content := le_contentStop le
    simp only
    omega
  | exclusive =>
    simp only [reach] at h
    obtain ⟨q, _, hr⟩ := Option.bind_eq_some_iff.1 h
    obtain ⟨rfl, filled⟩ := Span.nonempty?_eq_some hr
    have start := beforeLineStart_start t (Span.between (min cursor t.size) q)
    have stop := (beforeLineStart_stop t (Span.between (min cursor t.size) q)).2
    simp only [Span.between] at start stop filled forward ⊢
    exact ⟨Nat.lt_of_le_of_ne forward filled, by omega, by omega⟩

theorem lineStart_target?_mem (lines : m.reach = .lineWise) (h : m.target? t cursor ctx = some q) :
    t.lineStart q ∈ t.lines := by
  have placed {i l : Nat} (c : Column) (here : t.lines[i]? = some l) :
      t.lineStart (t.placeOnLine l c) ∈ t.lines := by
    rw [lineStart_placeOnLine here c]
    exact List.mem_of_getElem? here
  have indented {l : Nat} (mem : l ∈ t.lines) : t.lineStart (t.firstNonBlank l) ∈ t.lines := by
    rw [(mem_lines.1 mem).1.lineStart_firstNonBlank]
    exact mem
  unfold target? at h
  simp only [lineStart_min] at h
  cases m with
  | up =>
    obtain ⟨l, away, rfl⟩ := Option.map_eq_some_iff.1 h
    rcases lineAway?_up t cursor (Nat.le_max_right ctx.count 1) with
      ⟨_, missing⟩ | ⟨q, _, here, found, _⟩
    · rw [missing] at away
      contradiction
    · obtain rfl := Option.some.inj (found.symm.trans away)
      exact placed _ here
  | down =>
    obtain ⟨l, away, rfl⟩ := Option.map_eq_some_iff.1 h
    rcases lineAway?_down t cursor (Nat.le_max_right ctx.count 1) with
      ⟨_, missing⟩ | ⟨q, _, here, found, _⟩
    · rw [missing] at away
      contradiction
    · obtain rfl := Option.some.inj (found.symm.trans away)
      exact placed _ here
  | fileStart => exact Option.some.inj h ▸ indented (t.lineNumbered_mem _)
  | fileEnd =>
    refine Option.some.inj h ▸ indented ?_
    cases ctx.typed with
    | none => exact t.lastLine_mem
    | some n => exact t.lineNumbered_mem n
  -- the other motions are not between lines
  | _ => contradiction

theorem span_between_lines (p : Nat) (mem : t.lineStart q ∈ t.lines) :
    let r : Span :=
      { start := t.lineStart (min p q), stop := t.lineStop (t.lineStart (max p q))
        lineWise := true }
    t.WholeLines r ∧ (t.size ≠ 0 → r.start < r.stop) ∧
      r.covers (t.wholeLines p 1) ∧ r.covers (t.wholeLines q 1) := by
  intro r
  have start {x : Nat} (h : min p q ≤ x) : r.start ≤ t.lineStart x := t.lineStart_mono h
  have stop {x : Nat} (h : x ≤ max p q) : t.lineStop (t.lineStart x) ≤ r.stop :=
    lineStop_mono (t.lineStart_le_size _) (t.lineStart_mono h)
  have filled : t.size ≠ 0 → r.start < r.stop := by
    intro some_char
    have on_line := (mem_lines.1 mem).2
    have reached := lt_lineStop (t := t) (p := t.lineStart q) (by omega)
    have := start (Nat.min_le_right p q)
    have := stop (Nat.le_max_right p q)
    omega
  refine ⟨⟨rfl, t.lineStart_startsLine _, lines_within (by omega), ?_⟩, filled,
    covers_line (start (by omega)) (stop (by omega)),
    covers_line (start (by omega)) (stop (by omega))⟩
  rcases Nat.eq_zero_or_pos t.size with empty | some_char
  · have := t.lineStop_le_size (t.lineStart (max p q))
    exact Or.inl (by simp only [r]; omega)
  · exact (t.lineStop_starts_or_ends _).symm.imp_right fun starts => ⟨starts, filled (by omega)⟩

/-- A motion gives a span within the text, found without any sum or difference that leaves the
machine words. Of characters it has one at least, and touches the cursor. Of lines it has that of
the cursor and that of the place the motion leads to, and is empty in the empty text only. -/
theorem span?_wellFormed (m : Motion) (t : Text) (cursor : Nat) (ctx : MotionContext) :
    (t.size < 2 ^ 63 → ctx.count ≤ maxCount →
        Checked.span? m t cursor ctx = some (m.span? t cursor ctx)) ∧
      ∀ r, m.span? t cursor ctx = some r →
        r.start ≤ r.stop ∧ r.stop ≤ t.size ∧
        (r.lineWise = false → r.Touches (min cursor t.size)) ∧
        (r.lineWise = true →
          t.WholeLines r ∧ (t.size ≠ 0 → r.start < r.stop) ∧
          r.covers (t.wholeLines (min cursor t.size) 1) ∧
          ∃ q, m.target? t cursor ctx = some q ∧ r.covers (t.wholeLines q 1)) := by
  refine ⟨Checked.span?_eq, fun r h => ?_⟩
  have within := span?_within h
  have kind := span?_lineWise_eq h
  refine ⟨within.forward, within.inside, fun chars => span?_touches h ?_, fun lines => ?_⟩
  · intro lineWise
    rw [kind.2 lineWise] at chars
    contradiction
  · have reach := kind.1 lines
    rw [span?_lineWise m t cursor ctx reach] at h
    obtain ⟨q, led, rfl⟩ := Option.map_eq_some_iff.1 h
    obtain ⟨whole, filled, at_cursor, at_target⟩ :=
      span_between_lines (min cursor t.size) (lineStart_target?_mem reach led)
    exact ⟨whole, filled, at_cursor, q, led, at_target⟩

theorem span?_wellFormed_from_end :
    let t := Text.ofString "ab\n\n"
    let ctx : MotionContext := { count := maxCount, column := some .last }
    let r : Span := { start := 0, stop := 4, lineWise := true }
    t.size < 2 ^ 63 ∧ ctx.count ≤ maxCount ∧ up.span? t 9 ctx = some r ∧
      Checked.span? up t 9 ctx = some r ∧ t.WholeLines r ∧ r.covers (t.wholeLines 4 1) ∧
      ∃ q, up.target? t 9 ctx = some q ∧ r.covers (t.wholeLines q 1) := by
  intro t ctx r
  have found : up.span? t 9 ctx = some r := by decide +kernel
  obtain ⟨checked, form⟩ := span?_wellFormed up t 9 ctx
  obtain ⟨_, _, _, lines⟩ := form r found
  obtain ⟨whole, _, at_cursor, at_target⟩ := lines rfl
  exact ⟨by decide, Nat.le_refl _, found, (checked (by decide) (Nat.le_refl _)).trans
    (congrArg some found), whole, at_cursor, at_target⟩

end Motion

end ModalEditing
