import ModalEditing.Proofs.OperatedBlocks

/-! The shape that a selection of the host is taken to have. A look at its two ends tells whole
lines from other text, just as selecting lines from its first to its last character would. -/

namespace ModalEditing

open Text

variable {t : Text} {r : Span} {p : Nat}

theorem Text.lineStart_eq_iff : t.lineStart p = p ↔ t.StartsLine p :=
  ⟨fun same => same ▸ t.lineStart_startsLine p, StartsLine.lineStart_eq⟩

theorem Selection.span_wholeLines {s : Selection} (h : s.shape = .line) (t : Text) :
    t.WholeLines (s.span t) := by
  unfold span
  rw [h]
  generalize low : min (min s.anchor s.head) t.size = lo
  generalize high : min (max s.anchor s.head) t.size = hi
  have start := t.lineStart_le lo
  have reaches : hi ≤ t.lineStop hi := le_lineStop (by omega)
  refine ⟨rfl, t.lineStart_startsLine lo, ?_, ?_⟩
  · show t.lineStart lo ≤ t.lineStop hi
    omega
  · show t.lineStop hi = t.size ∨ t.StartsLine (t.lineStop hi) ∧ t.lineStart lo < t.lineStop hi
    rcases Nat.lt_or_ge hi t.size with inside | outside
    · have past := lt_lineStop inside
      exact (t.lineStop_starts_or_ends hi).symm.imp_right fun starts => ⟨starts, by omega⟩
    · have := t.lineStop_le_size hi
      exact Or.inl (by omega)

namespace Span

theorem shapeIn_eq_line_iff :
    r.shapeIn t false = .line ↔
      (r.clamp t.size).start ≠ (r.clamp t.size).stop ∧
        t.WholeLines { r.clamp t.size with lineWise := true } := by
  have forward := r.clamp_start_le_stop t.size
  have inside := r.clamp_stop_le t.size
  unfold shapeIn
  generalize r.clamp t.size = c at forward inside
  have filled : ¬ c.isEmpty ↔ c.start ≠ c.stop := by rw [isEmpty, beq_iff_eq]
  simp only [Bool.false_eq_true, if_false]
  constructor
  · intro told
    split at told
    · next ends =>
      obtain ⟨some_char, starts, stop⟩ := ends
      rw [filled] at some_char
      refine ⟨some_char, rfl, lineStart_eq_iff.1 starts, forward, stop.imp_right fun newline => ?_⟩
      exact ⟨⟨inside, Or.inr newline⟩, Nat.lt_of_le_of_ne forward some_char⟩
    · contradiction
  · rintro ⟨some_char, whole⟩
    have stop : c.stop = t.size ∨ t[c.stop - 1]? = some '\n' :=
      whole.stop.imp_right fun last =>
        last.1.after_newline.resolve_left (Nat.ne_of_gt (Nat.zero_lt_of_lt last.2))
    exact if_pos ⟨filled.2 some_char, whole.start.lineStart_eq, stop⟩

/-- Whole lines are found again by selecting lines from their first to their last character. -/
theorem wholeLines_iff_selected (some_char : r.start < r.stop) (exclusive : Bool) :
    let s := Selection.span
      { anchor := r.start, head := r.stop - 1, shape := .line, exclusive } t
    t.WholeLines { r with lineWise := true } ↔ s.start = r.start ∧ s.stop = r.stop := by
  intro s
  constructor
  · intro whole
    have selected : s = { r with lineWise := true } := by
      have found := whole.span_selection exclusive
      rwa [Nat.max_eq_left (show r.start ≤ r.stop - 1 by omega)] at found
    rw [selected]
    exact ⟨rfl, rfl⟩
  · rintro ⟨start, stop⟩
    have selected : s = { r with lineWise := true } :=
      (Span.mk.injEq ..).mpr ⟨start, stop, rfl⟩
    rw [← selected]
    exact Selection.span_wholeLines rfl t

theorem line_or_character (r : Span) (t : Text) :
    r.shapeIn t false = .line ∨ r.shapeIn t false = .character := by
  unfold shapeIn
  simp only [Bool.false_eq_true, if_false]
  split
  · exact Or.inl rfl
  · exact Or.inr rfl

/-- A span is told as lines just if, cut to the text, it is not empty and has the ends of the lines
that are selected from its first to its last character, whether or not the last one counts in. So
whatever lines are selected, they are told as lines unless there is no character on them. All else
is told as characters. -/
theorem lines_detected (r : Span) (t : Text) :
    let c := r.clamp t.size
    let lines (anchor head : Nat) (exclusive : Bool) : Span :=
      Selection.span { anchor, head, shape := .line, exclusive } t
    (∀ exclusive, r.shapeIn t false = .line ↔
        c.start ≠ c.stop ∧ (lines c.start (c.stop - 1) exclusive).start = c.start ∧
          (lines c.start (c.stop - 1) exclusive).stop = c.stop) ∧
      (∀ anchor head exclusive, let selected := lines anchor head exclusive
        selected.start ≠ selected.stop → selected.shapeIn t false = .line) ∧
      (r.shapeIn t false ≠ .line → r.shapeIn t false = .character) := by
  intro c lines
  have recognised (exclusive : Bool) : r.shapeIn t false = .line ↔
      c.start ≠ c.stop ∧ (lines c.start (c.stop - 1) exclusive).start = c.start ∧
        (lines c.start (c.stop - 1) exclusive).stop = c.stop := by
    rw [shapeIn_eq_line_iff]
    refine and_congr_right fun some_char => ?_
    have before : c.start < c.stop := Nat.lt_of_le_of_ne (r.clamp_start_le_stop t.size) some_char
    exact wholeLines_iff_selected before exclusive
  have selected (anchor head : Nat) (exclusive : Bool)
      (some_char : (lines anchor head exclusive).start ≠ (lines anchor head exclusive).stop) :
      (lines anchor head exclusive).shapeIn t false = .line := by
    have whole : t.WholeLines (lines anchor head exclusive) := Selection.span_wholeLines rfl t
    rw [shapeIn_eq_line_iff, clamp_eq_self whole.forward whole.stop_le_size]
    exact ⟨some_char, whole⟩
  exact ⟨recognised, selected, (r.line_or_character t).resolve_left⟩

end Span

end ModalEditing
