import ModalEditing.Proofs.NumberedLines

/-! The lines as one comes to them from the top of a text, each found from the one before. Walks up,
scans around an offset, line numbers and the last line are found on ways of their own, by counting
newlines forward or back, and all of them agree with this chain of lines. -/

namespace ModalEditing

namespace Text

variable {t : Text} {i p q n : Nat}

/-- The lines that one comes to from `p` on, each found as the line after the one before. -/
def linesFrom (t : Text) (p : Nat) : List Nat :=
  match _h : t.lineAfter? p with
  | none => [p]
  | some q => p :: linesFrom t q
termination_by t.size - p
decreasing_by
  have := lineAfter?_eq_some _h
  omega

theorem linesFrom_eq_drop (h : t.lines[i]? = some p) : t.linesFrom p = t.lines.drop i := by
  obtain ⟨inside, here⟩ := List.getElem?_eq_some_iff.1 h
  rw [List.drop_eq_getElem_cons inside, here]
  fun_induction linesFrom t p generalizing i with
  | case1 p last =>
    rw [lineAfter?_of_getElem? h, List.getElem?_eq_none_iff] at last
    rw [List.drop_of_length_le last]
  | case2 p q next ih =>
    rw [lineAfter?_of_getElem? h] at next
    obtain ⟨inside', here'⟩ := List.getElem?_eq_some_iff.1 next
    rw [ih next inside' here', List.drop_eq_getElem_cons inside', here']

theorem linesFrom_zero (t : Text) : t.linesFrom 0 = t.lines :=
  linesFrom_eq_drop t.getElem?_lines_zero

theorem mem_lines_iff :
    p ∈ t.lines ↔ p = 0 ∨ 0 < p ∧ p < t.size ∧ t[p - 1]? = some '\n' := by
  rw [mem_lines]
  constructor
  · rintro ⟨⟨_, first | newline⟩, inside⟩
    · exact Or.inl first
    · rcases Nat.eq_zero_or_pos p with first | later
      · exact Or.inl first
      · exact Or.inr ⟨later, by omega, newline⟩
  · rintro (rfl | ⟨later, inside, newline⟩)
    · exact ⟨t.startsLine_zero, by omega⟩
    · exact ⟨⟨Nat.le_of_lt inside, Or.inr newline⟩, by omega⟩

theorem lineStop_of_within (le : p ≤ q) (lt : q < t.lineStop p) : t.lineStop q = t.lineStop p := by
  have inside := t.lineStop_le_size p
  have past := lt_lineStop (t := t) (p := q) (by omega)
  refine Nat.le_antisymm ?_ ?_
  · rcases t.lineStop_starts_or_ends p with starts | ends
    · exact starts.lineStop_le lt
    · exact ends ▸ t.lineStop_le_size q
  · rcases t.lineStop_starts_or_ends q with starts | ends
    · exact starts.lineStop_le (by omega)
    · exact ends ▸ inside

theorem lt_lineStop_lineStart (h : p < t.size) : p < t.lineStop (t.lineStart p) := by
  rcases Nat.lt_or_eq_of_le (le_lineStop_lineStart (Nat.le_of_lt h)) with before | stops
  · exact before
  · -- a line that stopped at `p` would leave `p` to the next line
    have starts := (t.lineStop_starts_or_ends (t.lineStart p)).resolve_right (by omega)
    rw [← stops] at starts
    have past := lt_lineStop h
    rw [starts.lineStart_eq] at stops
    omega

theorem lineStop_lineStart (h : p < t.size) : t.lineStop (t.lineStart p) = t.lineStop p :=
  (lineStop_of_within (t.lineStart_le p) (lt_lineStop_lineStart h)).symm

theorem line_around (h : p < t.size) :
    t.lines[t.linesAbove p]? = some (t.lineStart p) ∧
      t.lineStop p = t.lines[t.linesAbove p + 1]?.getD t.size := by
  have start := t.lineStart_le p
  have here := getElem?_linesAbove (t := t) (p := p) (by omega)
  refine ⟨here, ?_⟩
  rw [← lineAfter?_of_getElem? here, lineAfter?, lineStop_lineStart h]
  split
  · rfl
  · have := t.lineStop_le_size p
    rw [Option.getD_none]
    omega

theorem getLast?_lines (t : Text) : t.lines.getLast? = some t.lastLine := by
  obtain ⟨starts, inside⟩ := mem_lines.1 t.lastLine_mem
  have none_after : offsetsWith t.StartsLine (t.lastLine + 1) (max t.size 1) = [] :=
    offsetsWith_eq_nil fun x past below hx => by
      have := le_lastLine (mem_lines.2 ⟨hx, below⟩)
      omega
  rw [lines_split starts inside, none_after, List.getLast?_concat]

theorem lineNumbered_of_length_le (h : t.lines.length ≤ n) : t.lineNumbered n = t.lastLine := by
  have numbered := t.lineNumbered_eq n
  rw [Nat.min_eq_right (by omega), ← List.getLast?_eq_getElem?, getLast?_lines] at numbered
  exact (Option.some.inj numbered).symm

theorem lineNumbered_eq_getD (t : Text) (n : Nat) :
    t.lineNumbered n = t.lines[n - 1]?.getD t.lastLine := by
  rcases Nat.lt_or_ge (n - 1) t.lines.length with few | many
  · have numbered := t.lineNumbered_eq n
    rw [Nat.min_eq_left (by omega)] at numbered
    rw [numbered, Option.getD_some]
  · rw [List.getElem?_eq_none many, Option.getD_none]
    exact lineNumbered_of_length_le (by omega)

/-- All ways to find a line agree with the chain of lines that starts at zero and goes on with the
line after, while there is one. A line start is zero or an offset within the text that follows a
newline. -/
theorem line_walks_agree (t : Text) :
    let chain := t.linesFrom 0
    chain.Pairwise (· < ·) ∧
      (∀ p, p ∈ chain ↔ p = 0 ∨ 0 < p ∧ p < t.size ∧ t[p - 1]? = some '\n') ∧
      (∀ i p, chain[i + 1]? = some p → t.lineBefore? p = chain[i]?) ∧
      (∀ p, p < t.size →
        (t.lineStart p ∈ chain ∧ t.lineStart p ≤ p ∧ ∀ q ∈ chain, q ≤ p → q ≤ t.lineStart p) ∧
          ∃ i, chain[i]? = some (t.lineStart p) ∧ t.lineStop p = chain[i + 1]?.getD t.size) ∧
      (∀ n, t.lineNumbered n = chain[n - 1]?.getD t.lastLine) ∧
      chain.getLast? = some t.lastLine ∧
      ∀ (cursor n : Nat) (plain counted : MotionContext), plain.typed = none →
        counted.typed = some n → chain.length ≤ n →
        Motion.fileEnd.target? t cursor counted = Motion.fileEnd.target? t cursor plain := by
  intro chain
  have chain_eq : chain = t.lines := t.linesFrom_zero
  rw [chain_eq]
  have around (p : Nat) (h : p < t.size) :
      (t.lineStart p ∈ t.lines ∧ t.lineStart p ≤ p ∧
          ∀ q ∈ t.lines, q ≤ p → q ≤ t.lineStart p) ∧
        ∃ i, t.lines[i]? = some (t.lineStart p) ∧
          t.lineStop p = t.lines[i + 1]?.getD t.size := by
    obtain ⟨here, stop⟩ := line_around h
    have last (q : Nat) (hq : q ∈ t.lines) (le : q ≤ p) : q ≤ t.lineStart p :=
      (mem_lines.1 hq).1.le_lineStart le
    exact ⟨⟨List.mem_of_getElem? here, t.lineStart_le p, last⟩, _, here, stop⟩
  have gone (cursor n : Nat) (plain counted : MotionContext) (unnumbered : plain.typed = none)
      (numbered : counted.typed = some n) (many : t.lines.length ≤ n) :
      Motion.fileEnd.target? t cursor counted = Motion.fileEnd.target? t cursor plain := by
    simp only [Motion.target?, unnumbered, numbered, Option.map_some, Option.map_none,
      Option.getD_some, Option.getD_none, lineNumbered_of_length_le many]
  exact ⟨offsetsWith_pairwise _ _, fun _ => mem_lines_iff, fun _ _ => lineBefore?_of_getElem?,
    around, t.lineNumbered_eq_getD, t.getLast?_lines, gone⟩

end Text

end ModalEditing
