import Mathlib.Logic.Function.Iterate
import ModalEditing.Proofs.LineSpans
import ModalEditing.Proofs.LineWalks

/-! The searches for a line by its indentation, told by the lines taken one at a time. Down the text
one scan reads on over the ends of lines, up the text each line is read anew; both lead to the
nearest of the lines that, read alone, have text and an indentation that fits. -/

namespace ModalEditing

namespace Text

variable {t : Text} {fits : Nat → Bool} {c : Char} {i j k p q w : Nat}

/-- The line that starts at `p`, read alone, has text and an indentation that fits. -/
def indentFits (t : Text) (fits : Nat → Bool) (p : Nat) : Bool := (t.indent? p).any fits

theorem fittingLine_iff : t.FittingLine fits p ↔ t.StartsLine p ∧ t.indentFits fits p := by
  constructor
  · intro line
    exact ⟨line.starts, (any_indent?_iff line.starts).2 line⟩
  · rintro ⟨starts, fit⟩
    exact (any_indent?_iff starts).1 fit

theorem lt_size_of_indentFits (h : t.indentFits fits p) : p < t.size := by
  obtain ⟨w, indent, _⟩ := (Option.any_eq_true _ _).1 h
  exact (indent?_eq_some_iff.1 indent).1.lt_size

theorem le_iterate_lineStop (h : p ≤ t.size) (k : Nat) : p ≤ t.lineStop^[k] p := by
  induction k generalizing p with
  | zero => exact Nat.le_refl p
  | succ k ih => exact Nat.le_trans (le_lineStop h) (ih (t.lineStop_le_size p))

theorem iterate_lineStop_lt (inside : t.lineStop^[i] p < t.size) (lt : i < j) :
    t.lineStop^[i] p < t.lineStop^[j] p := by
  obtain ⟨d, rfl⟩ := Nat.exists_eq_add_of_lt lt
  rw [show i + d + 1 = d + 1 + i by omega, Function.iterate_add_apply]
  generalize t.lineStop^[i] p = q at inside
  exact Nat.lt_of_lt_of_le (lt_lineStop inside) (le_iterate_lineStop (t.lineStop_le_size q) d)

theorem iterate_lineStop_starts (h : t.StartsLine p) (k : Nat) :
    t.StartsLine (t.lineStop^[k] p) ∨ t.lineStop^[k] p = t.size := by
  cases k with
  | zero => exact Or.inl h
  | succ k =>
    rw [Function.iterate_succ_apply']
    exact t.lineStop_starts_or_ends _

theorem iterate_lineStop_of_getElem? (h : t.lines[i]? = some p) : t.lineStop^[i] 0 = p := by
  induction i generalizing p with
  | zero =>
    rw [getElem?_lines_zero] at h
    exact Option.some.inj h
  | succ i ih =>
    have inside := (List.getElem?_eq_some_iff.1 h).1
    have before : t.lines[i]? = some t.lines[i] := List.getElem?_eq_getElem (by omega)
    have next := (lineAfter?_of_getElem? before).trans h
    rw [Function.iterate_succ_apply', ih before]
    exact (lineAfter?_eq_some next).2.2.symm

/-- Going down from `p`, from each line to where it stops, the search finds the first that fits. -/
theorem findFrom?_first (t : Text) (fits : Nat → Bool) (p : Nat) :
    match t.findFrom? fits p with
    | none => ∀ k, ¬ t.indentFits fits (t.lineStop^[k] p)
    | some q => ∃ k, t.lineStop^[k] p = q ∧ t.indentFits fits q ∧
        ∀ j < k, ¬ t.indentFits fits (t.lineStop^[j] p) := by
  induction left : t.size - p using Nat.strongRecOn generalizing p with
  | ind n ih =>
    have step : t.findFrom? fits p =
        if t.indentFits fits p then some p else t.findFrom? fits (t.lineStop p) :=
      t.findFrom?_eq fits p
    by_cases fit : t.indentFits fits p
    · rw [step, if_pos fit]
      exact ⟨0, rfl, fit, fun j below => absurd below (Nat.not_lt_zero j)⟩
    by_cases inside : p < t.size
    · have past := lt_lineStop inside
      have rest := ih (t.size - t.lineStop p) (by omega) (t.lineStop p) rfl
      rw [step, if_neg fit]
      split
      · next missing =>
        rw [missing] at rest
        intro k
        cases k with
        | zero => exact fit
        | succ k => exact rest k
      · next q found =>
        rw [found] at rest
        obtain ⟨k, place, fits_there, first⟩ := rest
        refine ⟨k + 1, place, fits_there, fun j below => ?_⟩
        cases j with
        | zero => exact fit
        | succ j => exact first j (Nat.lt_of_succ_lt_succ below)
    · rw [findFrom?, IndentScan.find?_of_outside inside]
      intro k fit'
      cases k with
      | zero => exact fit fit'
      | succ k =>
        -- past the text there is no place left to go to
        rw [Function.iterate_succ_apply, lineStop, dif_neg inside] at fit'
        have := le_iterate_lineStop (Nat.le_refl t.size) k
        have := lt_size_of_indentFits fit'
        omega

/-- Of the lines from the first one on, the search up the text finds the last above `p` that fits. -/
theorem findAbove?_last (t : Text) (fits : Nat → Bool) (p : Nat) :
    match t.findAbove? fits p with
    | none => ∀ k, t.lineStop^[k] 0 < p → ¬ t.indentFits fits (t.lineStop^[k] 0)
    | some q => ∃ k, t.lineStop^[k] 0 = q ∧ q < p ∧ t.indentFits fits q ∧
        ∀ j, k < j → t.lineStop^[j] 0 < p → ¬ t.indentFits fits (t.lineStop^[j] 0) := by
  have line {k : Nat} (fit : t.indentFits fits (t.lineStop^[k] 0)) :
      t.FittingLine fits (t.lineStop^[k] 0) := by
    have inside := lt_size_of_indentFits fit
    have starts := (iterate_lineStop_starts t.startsLine_zero k).resolve_right (by omega)
    exact fittingLine_iff.2 ⟨starts, fit⟩
  have spec := t.findAbove?_spec fits p
  split
  · next missing =>
    rw [missing] at spec
    exact fun k above fit => spec _ (line fit) above
  · next q found =>
    rw [found] at spec
    obtain ⟨starts, fit⟩ := fittingLine_iff.1 spec.line
    have inside := spec.line.lt_size
    obtain ⟨k, place⟩ := List.mem_iff_getElem?.1 (mem_lines.2 ⟨starts, by omega⟩)
    have reached := iterate_lineStop_of_getElem? place
    refine ⟨k, reached, spec.above, fit, fun j later above fit' => ?_⟩
    have further := iterate_lineStop_lt (p := 0) (reached ▸ inside) later
    have := spec.nearest _ (line fit') above
    omega

theorem isBlank_iff : isBlank c ↔ c = ' ' ∨ c = '\t' := by
  rw [isBlank, Bool.or_eq_true, beq_iff_eq, beq_iff_eq]

theorem HasText.lt_contentStop (h : t.HasText p) : t.firstNonBlank p < t.contentStop p := by
  have start := h.lt_size
  obtain ⟨c, here, inline⟩ := h
  have inside := (Array.getElem?_eq_some_iff.1 here).1
  refine Nat.lt_of_not_le fun ended => ?_
  rcases contentStop_ends (Nat.le_of_lt start) with newline | ends
  · rcases Nat.lt_or_eq_of_le ended with before | same
    · -- the newline that ends the line would be one of the blanks
      obtain ⟨d, there, blank⟩ :=
        isBlank_of_lt_firstNonBlank (le_contentStop (Nat.le_of_lt start)) before
      rw [newline, Option.some.injEq] at there
      rw [← there, isBlank_newline] at blank
      contradiction
    · rw [same, here, Option.some.injEq] at newline
      exact inline newline
  · omega

theorem indent?_eq_none_iff_blank :
    t.indent? p = none ↔
      ∀ q, p ≤ q → q < t.contentStop p → t[q]? = some ' ' ∨ t[q]? = some '\t' := by
  rw [indent?_eq_none_iff]
  constructor
  · intro textless q le lt
    have before : q < t.firstNonBlank p := by
      refine Nat.lt_of_not_le fun reached => textless ?_
      exact contentStop_inline (Nat.le_add_right p _) (by omega)
    obtain ⟨c, here, blank⟩ := isBlank_of_lt_firstNonBlank le before
    rw [here, Option.some.injEq, Option.some.injEq]
    exact isBlank_iff.1 blank
  · intro blanks text
    have told := blanks (t.firstNonBlank p) (Nat.le_add_right p _) text.lt_contentStop
    obtain ⟨c, here, _⟩ := text
    rw [here, Option.some.injEq, Option.some.injEq] at told
    exact not_isBlank_firstNonBlank here (isBlank_iff.2 told)

/-- The searches come to what reading the lines one at a time comes to: from `p` down to the first
line with text that fits, and up from `p` to the last one before. Lines follow one another from
stop to stop. -/
theorem searches_line_by_line (t : Text) (fits : Nat → Bool) (p : Nat) :
    (match t.findFrom? fits p with
      | none => ∀ k, ¬ t.indentFits fits (t.lineStop^[k] p)
      | some q => ∃ k, t.lineStop^[k] p = q ∧ t.indentFits fits q ∧
          ∀ j < k, ¬ t.indentFits fits (t.lineStop^[j] p)) ∧
      (match t.findAbove? fits p with
      | none => ∀ k, t.lineStop^[k] 0 < p → ¬ t.indentFits fits (t.lineStop^[k] 0)
      | some q => ∃ k, t.lineStop^[k] 0 = q ∧ q < p ∧ t.indentFits fits q ∧
          ∀ j, k < j → t.lineStop^[j] 0 < p → ¬ t.indentFits fits (t.lineStop^[j] 0)) ∧
      (∀ q w, t.indent? q = some w → w = t.blanksFrom q) ∧
      (t.indent? p = none ↔
        ∀ q, p ≤ q → q < t.contentStop p → t[q]? = some ' ' ∨ t[q]? = some '\t') :=
  ⟨t.findFrom?_first fits p, t.findAbove?_last fits p,
    fun _ _ told => (indent?_eq_some_iff.1 told).2.symm, indent?_eq_none_iff_blank⟩

end Text

end ModalEditing
