import ModalEditing.Proofs.NumberedLines

/-! Spans of whole lines. A motion to another line leads to a place on it, and the span between
the two lines is found from this place again; it is the span that counts the lines directly. -/

namespace ModalEditing

namespace Text

variable {t : Text} {i l p q n : Nat} {c : Column}

theorem lineStop_of_last (h : t.lines[t.lines.length - 1]? = some l) : t.lineStop l = t.size := by
  have none_after := lineAfter?_of_getElem? h
  rw [Nat.sub_add_cancel t.lines_length_pos, List.getElem?_eq_none (Nat.le_refl _)] at none_after
  unfold lineAfter? at none_after
  split at none_after
  · contradiction
  · have := t.lineStop_le_size l
    omega

theorem lineStart_of_within (h : t.StartsLine l) (le : l ≤ p) (lt : p < t.lineStop l) :
    t.lineStart p = l := by
  have reached := h.le_lineStart le
  rcases Nat.lt_or_eq_of_le reached with later | same
  · have := (t.lineStart_startsLine p).lineStop_le later
    have := t.lineStart_le p
    omega
  · exact same.symm

theorem le_contentStop (h : p ≤ t.size) : p ≤ t.contentStop p := by
  have stop := le_lineStop h
  unfold contentStop
  simp only
  split <;> omega

theorem contentStop_inline (le : l ≤ p) (lt : p < t.contentStop l) :
    ∃ c, t[p]? = some c ∧ c ≠ '\n' := by
  have inside := t.contentStop_le_size l
  refine ⟨_, Array.getElem?_eq_getElem (show p < t.size by omega), fun newline => ?_⟩
  have here : t[p]? = some '\n' := by rw [Array.getElem?_eq_getElem (by omega), newline]
  -- the newline would end the line
  have starts : t.StartsLine (p + 1) := ⟨by omega, Or.inr here⟩
  have stop := starts.lineStop_le (p := l) (by omega)
  unfold contentStop at lt
  simp only at lt
  split at lt
  · omega
  · next unended =>
    have last : t.lineStop l - 1 = p := by omega
    exact unended ⟨by omega, last ▸ here⟩

theorem contentStop_ends (h : l ≤ t.size) :
    t[t.contentStop l]? = some '\n' ∨ t.contentStop l = t.size := by
  have past : l < t.size → l < t.lineStop l := lt_lineStop
  have reaches := le_lineStop h
  unfold contentStop
  simp only
  split
  · next newline => exact Or.inl newline.2
  · next unended =>
    rcases t.lineStop_starts_or_ends l with starts | ends
    · rcases starts.after_newline with zero | newline
      · exact Or.inr (by omega)
      · have whole : ¬ l < t.lineStop l := fun more => unended ⟨more, newline⟩
        exact Or.inr (by omega)
    · exact Or.inr ends

theorem le_lastOnLine (t : Text) (p : Nat) : p ≤ t.lastOnLine p := by
  unfold lastOnLine
  split <;> omega

theorem lastOnLine_lt_lineStop (h : p < t.size) : t.lastOnLine p < t.lineStop p := by
  have past := lt_lineStop h
  unfold lastOnLine contentStop
  simp only
  repeat' split
  all_goals omega

theorem lastOnLine_lt_size (h : p < t.size) : t.lastOnLine p < t.size := by
  have := lastOnLine_lt_lineStop h
  have := t.lineStop_le_size p
  omega

theorem placeOnLine_le (t : Text) (p : Nat) (c : Column) : t.placeOnLine p c ≤ t.lastOnLine p := by
  cases c with
  | offset n => exact Nat.min_le_right _ _
  | last => exact Nat.le_refl _

theorem le_placeOnLine (t : Text) (p : Nat) (c : Column) : p ≤ t.placeOnLine p c := by
  have last := t.le_lastOnLine p
  cases c with
  | offset n => exact Nat.le_min.2 ⟨Nat.le_add_right p n, last⟩
  | last => exact last

theorem lineStart_placeOnLine (h : t.lines[i]? = some l) (c : Column) :
    t.lineStart (t.placeOnLine l c) = l := by
  obtain ⟨starts, inside⟩ := mem_lines.1 (List.mem_of_getElem? h)
  have above := t.le_placeOnLine l c
  have below := t.placeOnLine_le l c
  rcases Nat.eq_zero_or_pos t.size with empty | some_char
  · have := t.lineStart_le_size (t.placeOnLine l c)
    omega
  · have := lastOnLine_lt_lineStop (t := t) (p := l) (by omega)
    exact lineStart_of_within starts above (by omega)

end Text

namespace Motion

open Text

variable {m : Motion} {t : Text} {cursor l p q n : Nat} {ctx : MotionContext}

theorem target?_min (m : Motion) (t : Text) (cursor : Nat) (ctx : MotionContext) :
    m.target? t (min cursor t.size) ctx = m.target? t cursor ctx := by
  unfold target?
  rw [Nat.min_assoc, Nat.min_self]

theorem span?_lineWise (m : Motion) (t : Text) (cursor : Nat) (ctx : MotionContext)
    (h : m.reach = .lineWise) :
    m.span? t cursor ctx =
      (m.target? t cursor ctx).map fun q =>
        { start := t.lineStart (min (min cursor t.size) q)
          stop := t.lineStop (t.lineStart (max (min cursor t.size) q))
          lineWise := true } := by
  unfold span?
  simp only [h, target?_min]
  cases m.target? t cursor ctx <;> rfl

/-- Down to another line, the span is the line of the cursor and as many lines below. -/
theorem span?_down (t : Text) (cursor : Nat) (ctx : MotionContext) (hn : 1 ≤ ctx.count) :
    down.span? t cursor ctx =
      if 0 < t.linesBelow cursor then some (t.wholeLines cursor (ctx.count + 1)) else none := by
  rw [span?_lineWise _ _ _ _ rfl]
  unfold target?
  simp only [lineStart_min, Nat.max_eq_left hn]
  rcases lineAway?_down t cursor hn with ⟨last, missing⟩ | ⟨l, more, here, away, further⟩
  · rw [missing, if_neg (by omega)]
    rfl
  · generalize ctx.column.getD _ = c
    have starts := startsLine_of_getElem? here
    have on_line := lineStart_placeOnLine here c
    have walk : walkLines t.lineAfter? ctx.count (t.lineStart cursor) = l := by
      unfold lineAway? moved? at away
      split at away
      · contradiction
      · exact Option.some.inj away
    have past : min cursor t.size < t.placeOnLine l c := by
      have above := t.le_placeOnLine l c
      refine Nat.lt_of_lt_of_le (Nat.lt_of_not_le fun reached => ?_) above
      have := starts.le_lineStart reached
      rw [lineStart_min] at this
      omega
    rw [away, if_pos more, wholeLines, Nat.add_sub_cancel, walk]
    simp only [Option.map_some]
    rw [Nat.min_eq_left (Nat.le_of_lt past), Nat.max_eq_right (Nat.le_of_lt past), on_line,
      lineStart_min]

theorem span?_up (t : Text) (cursor : Nat) (ctx : MotionContext) (hn : 1 ≤ ctx.count) :
    let h := min ctx.count (t.linesAbove cursor)
    t.linesAbove cursor = 0 ∧ up.span? t cursor ctx = none ∨
      ∃ l, 0 < t.linesAbove cursor ∧ t.lines[t.linesAbove cursor - h]? = some l ∧
        ∀ p, t.lineStart p = l → up.span? t cursor ctx = some (t.wholeLines p (h + 1)) := by
  intro h
  rw [span?_lineWise _ _ _ _ rfl]
  unfold target?
  simp only [lineStart_min, Nat.max_eq_left hn]
  rcases lineAway?_up t cursor hn with ⟨first, missing⟩ | ⟨l, more, here, away, before⟩
  · rw [missing]
    exact Or.inl ⟨first, rfl⟩
  · generalize ctx.column.getD _ = c
    refine Or.inr ⟨l, more, here, fun p on_line' => ?_⟩
    have on_line := lineStart_placeOnLine here c
    have back : t.placeOnLine l c ≤ min cursor t.size := by
      refine Nat.le_of_lt (Nat.lt_of_not_le fun reached => ?_)
      have := t.lineStart_mono reached
      rw [lineStart_min, on_line] at this
      omega
    -- counted down from the line above, the lines reach the cursor's line or the end of the text
    have stop : t.lineStop (walkLines t.lineAfter? h l) = t.lineStop (t.lineStart cursor) := by
      have walk := walkLines_down_eq here h
      rw [Nat.sub_add_cancel (Nat.min_le_right _ _)] at walk
      rcases Nat.lt_or_ge (t.lineStart cursor) (max t.size 1) with inside | outside
      · have same := getElem?_linesAbove inside
        have place := (List.getElem?_eq_some_iff.1 same).1
        rw [Nat.min_eq_left (by omega)] at walk
        rw [Option.some.inj (walk.symm.trans same)]
      · have ends : t.lineStart cursor = t.size := by
          have := t.lineStart_le_size cursor
          omega
        rw [linesAbove_eq_length outside, Nat.min_eq_right (Nat.sub_le _ _)] at walk
        rw [ends, lineStop_size, lineStop_of_last walk]
    rw [away, wholeLines, Nat.add_sub_cancel, on_line', stop]
    simp only [Option.map_some]
    rw [Nat.min_eq_right back, Nat.max_eq_left back, on_line, lineStart_min]

theorem linesBelow_pos_iff (t : Text) (cursor : Nat) :
    0 < t.linesBelow cursor ↔ (t.lineAfter? (t.lineStart cursor)).isSome := by
  rcases lineAway?_down t cursor (Nat.le_refl 1) with ⟨last, missing⟩ | ⟨l, more, _, away, _⟩
  · cases next : t.lineAfter? (t.lineStart cursor) with
    | none => simp [last]
    | some q =>
      have further := (lineAfter?_eq_some next).1
      have walk : walkLines t.lineAfter? 1 (t.lineStart cursor) = q := by
        rw [walkLines, next]
        rfl
      rw [lineAway?_of_ne (by omega)] at missing
      contradiction
  · cases next : t.lineAfter? (t.lineStart cursor) with
    | none =>
      rw [lineAway?_of_eq (walkLines_of_none next 1)] at away
      contradiction
    | some q => simp [more]

/-- The span of a motion down or up is that of an operator key typed twice, with one line more: on
the line of the cursor, or on the line that the motion up leads to. There is one wherever there is
a line in this direction, whatever the column. -/
theorem line_spans_alike (t : Text) (cursor : Nat) (ctx : MotionContext) (hn : 1 ≤ ctx.count) :
    let n := ctx.count
    let h := min n (t.linesAbove cursor)
    (down.span? t cursor ctx =
        if (t.lineAfter? (t.lineStart cursor)).isSome then some (t.wholeLines cursor (n + 1))
        else none) ∧
      ((up.span? t cursor ctx).isSome ↔ 1 ≤ h) ∧
      (1 ≤ h → ∃ l, t.lines[t.linesAbove cursor - h]? = some l ∧
        ∀ p, t.lineStart p = l → up.span? t cursor ctx = some (t.wholeLines p (h + 1))) := by
  intro n h
  refine ⟨?_, ?_⟩
  · rw [span?_down t cursor ctx hn]
    simp only [linesBelow_pos_iff]
    rfl
  · rcases span?_up t cursor ctx hn with ⟨first, missing⟩ | ⟨l, later, here, alike⟩
    · rw [missing]
      simp [h, first]
    · have moves : 1 ≤ h := Nat.le_min.2 ⟨hn, later⟩
      have found := alike l (startsLine_of_getElem? here).lineStart_eq
      exact ⟨by simp [found, moves], fun _ => ⟨l, here, alike⟩⟩

theorem line_spans_alike_from_empty_line :
    let t := Text.ofString "ab\n\ncde"
    let ctx : MotionContext := { count := 5, column := some .last }
    1 ≤ ctx.count ∧ down.span? t 3 ctx = some { start := 3, stop := 7, lineWise := true } ∧
      t.linesAbove 3 = 1 ∧ up.span? t 3 ctx = some { start := 0, stop := 4, lineWise := true } := by
  intro t ctx
  obtain ⟨below, _, above⟩ := line_spans_alike t 3 ctx (by decide)
  have one : t.linesAbove 3 = 1 := by decide +kernel
  obtain ⟨l, first, alike⟩ := above (by rw [one]; decide)
  have top : l = 0 := by
    rw [one, show (1 : Nat) - min ctx.count 1 = 0 by decide, getElem?_lines_zero] at first
    exact (Option.some.inj first).symm
  refine ⟨by decide, below.trans (by decide +kernel), one, ?_⟩
  rw [alike 1 (top ▸ by decide +kernel), one]
  decide +kernel

end Motion

end ModalEditing
