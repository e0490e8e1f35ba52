import ModalEditing.Proofs.OffsetBounds

/-! Boundaries of words. A step over words leads to the nearest boundary in its direction, and
counted steps lead to the boundary with this number, or as far as there are boundaries. -/

namespace ModalEditing

def offsetsWith (B : Nat → Prop) [DecidablePred B] (a b : Nat) : List Nat :=
  (List.range' a (b - a)).filter (B ·)

section

variable {B : Nat → Prop} [DecidablePred B] {a b q : Nat}

theorem mem_offsetsWith {x : Nat} : x ∈ offsetsWith B a b ↔ a ≤ x ∧ x < b ∧ B x := by
  rw [offsetsWith, List.mem_filter, List.mem_range'_1, decide_eq_true_iff]
  constructor
  · rintro ⟨⟨above, below⟩, here⟩
    exact ⟨above, by omega, here⟩
  · rintro ⟨above, below, here⟩
    exact ⟨⟨above, by omega⟩, here⟩

theorem offsetsWith_eq_nil (none : ∀ x, a ≤ x → x < b → ¬ B x) : offsetsWith B a b = [] := by
  refine List.filter_eq_nil_iff.2 ?_
  intro x hx
  rw [List.mem_range'_1] at hx
  simpa using none x hx.1 (by omega)

theorem offsetsWith_split (ha : a ≤ q) (hb : q < b) (here : B q) :
    offsetsWith B a b = offsetsWith B a q ++ q :: offsetsWith B (q + 1) b := by
  have before : a + (q - a) = q := by omega
  have after : b - a = (q - a) + (b - (q + 1) + 1) := by omega
  unfold offsetsWith
  rw [after, ← List.range'_append_1, before, List.range'_succ, List.filter_append,
    List.filter_cons_of_pos (by simpa using here)]

end

namespace Text

/-- A word starts at `p`. An empty line counts as a word. -/
def StartsWord (t : Text) (p : Nat) : Prop :=
  p < t.size ∧
    (t.classAt? p ≠ some .space ∧ (p = 0 ∨ t.classAt? (p - 1) ≠ t.classAt? p) ∨ t.isEmptyLine p)

/-- A word ends with the character at `p`. -/
def EndsWord (t : Text) (p : Nat) : Prop :=
  p < t.size ∧ t.classAt? p ≠ some .space ∧ (p + 1 = t.size ∨ t.classAt? (p + 1) ≠ t.classAt? p)

instance (t : Text) (p : Nat) : Decidable (t.StartsWord p) := inferInstanceAs (Decidable (_ ∧ _))

instance (t : Text) (p : Nat) : Decidable (t.EndsWord p) := inferInstanceAs (Decidable (_ ∧ _))

def wordStartsAfter (t : Text) (p : Nat) : List Nat := offsetsWith t.StartsWord (p + 1) t.size

def wordStartsBefore (t : Text) (p : Nat) : List Nat := (offsetsWith t.StartsWord 0 p).reverse

def wordEndsAfter (t : Text) (p : Nat) : List Nat := offsetsWith t.EndsWord (p + 1) t.size

variable {t : Text} {p q r x n : Nat} {k : CharClass}

theorem classAt?_eq_none (h : t.size ≤ p) : t.classAt? p = none := by
  rw [classAt?, Array.getElem?_eq_none h, Option.map_none]

theorem classAt?_of_lt (h : p < t.size) : t.classAt? p = some (CharClass.of t[p]) := by
  rw [classAt?, Array.getElem?_eq_getElem h, Option.map_some]

theorem classAt?_eq_some_iff (h : p < t.size) : t.classAt? p = some k ↔ CharClass.of t[p] = k := by
  rw [classAt?_of_lt h, Option.some.injEq]

theorem classAt?_ne_space (here : t.classAt? p = some k) (hk : k ≠ .space) :
    t.classAt? p ≠ some .space := by
  rw [here]
  exact fun space => hk (Option.some.inj space)

theorem classAt?_of_newline (h : t[p]? = some '\n') : t.classAt? p = some .space := by
  have space : CharClass.of '\n' = .space := by decide +kernel
  rw [classAt?, h, Option.map_some, space]

theorem classAt?_of_isEmptyLine (h : t.isEmptyLine p) : t.classAt? p = some .space := by
  simp only [isEmptyLine, Bool.and_eq_true, beq_iff_eq] at h
  exact classAt?_of_newline h.1

/-- The characters from `p` on that are of the class, and no further one. -/
structure RunsTo (t : Text) (k : CharClass) (p q : Nat) : Prop where
  le : p ≤ q
  run : ∀ x, p ≤ x → x < q → t.classAt? x = some k
  stop : t.classAt? q ≠ some k

theorem runStop_runsTo (t : Text) (k : CharClass) (p : Nat) : t.RunsTo k p (t.runStop k p) := by
  fun_induction runStop t k p with
  | case1 p inside same ih =>
    refine ⟨by have := ih.le; omega, ?_, ih.stop⟩
    intro x below above
    rcases Nat.lt_or_eq_of_le below with later | rfl
    · exact ih.run x later above
    · exact (classAt?_eq_some_iff inside).2 same
  | case2 p inside other =>
    refine ⟨Nat.le_refl p, fun x below above => absurd above (Nat.not_lt.2 below), ?_⟩
    exact fun same => other ((classAt?_eq_some_iff inside).1 same)
  | case3 p outside =>
    refine ⟨Nat.le_refl p, fun x below above => absurd above (Nat.not_lt.2 below), ?_⟩
    rw [classAt?_eq_none (Nat.not_lt.1 outside)]
    exact (Option.some_ne_none k).symm

theorem runStart_run (h : t.runStart k p ≤ x) (hx : x < p) : t.classAt? x = some k := by
  induction p with
  | zero => omega
  | succ p ih =>
    rw [runStart] at h
    split at h
    · next same =>
      rcases Nat.lt_or_eq_of_le (Nat.le_of_lt_succ hx) with before | rfl
      · exact ih h before
      · exact same
    · omega

theorem runStart_stop (t : Text) (k : CharClass) (p : Nat) :
    t.runStart k p = 0 ∨ t.classAt? (t.runStart k p - 1) ≠ some k := by
  induction p with
  | zero => exact Or.inl rfl
  | succ p ih =>
    rw [runStart]
    split
    · exact ih
    · next other => exact Or.inr other

/-- White space that is no empty line. -/
def Skipped (t : Text) (p : Nat) : Prop := t.classAt? p = some .space ∧ t.isEmptyLine p = false

theorem le_skipSpace (t : Text) (p : Nat) : p ≤ t.skipSpace p := by
  fun_induction skipSpace t p <;> omega

theorem skipSpace_skipped (h : p ≤ x) (hx : x < t.skipSpace p) : t.Skipped x := by
  fun_induction skipSpace t p with
  | case1 p inside here ih =>
    rcases Nat.lt_or_eq_of_le h with later | rfl
    · exact ih later hx
    · exact ⟨(classAt?_eq_some_iff inside).2 here.1, here.2⟩
  | case2 => omega
  | case3 => omega

theorem skipSpace_stop (t : Text) (p : Nat) : ¬ t.Skipped (t.skipSpace p) := by
  fun_induction skipSpace t p with
  | case1 p inside here ih => exact ih
  | case2 p inside other =>
    rintro ⟨space, nonempty⟩
    exact other ⟨(classAt?_eq_some_iff inside).1 space, nonempty⟩
  | case3 p outside =>
    rintro ⟨space, _⟩
    rw [classAt?_eq_none (Nat.not_lt.1 outside)] at space
    contradiction

theorem skipSpaceBack_skipped (h : t.skipSpaceBack p < x) (hx : x ≤ p) : t.Skipped x := by
  induction p with
  | zero => omega
  | succ p ih =>
    rw [skipSpaceBack] at h
    split at h
    · next here =>
      rcases Nat.lt_or_eq_of_le hx with before | rfl
      · exact ih h (Nat.le_of_lt_succ before)
      · exact here
    · omega

theorem skipSpaceBack_stop (t : Text) (p : Nat) :
    t.skipSpaceBack p = 0 ∨ ¬ t.Skipped (t.skipSpaceBack p) := by
  induction p with
  | zero => exact Or.inl rfl
  | succ p ih =>
    rw [skipSpaceBack]
    split
    · exact ih
    · next other => exact Or.inr other

theorem Skipped.not_startsWord (h : t.Skipped p) : ¬ t.StartsWord p := by
  rintro ⟨_, ⟨other, _⟩ | empty⟩
  · exact other h.1
  · rw [h.2] at empty
    contradiction

theorem not_startsWord_of_run (hk : k ≠ .space) (before : t.classAt? (p - 1) = some k)
    (here : t.classAt? p = some k) (hp : 0 < p) : ¬ t.StartsWord p := by
  rintro ⟨_, ⟨_, first | other⟩ | empty⟩
  · omega
  · exact other (before.trans here.symm)
  · exact classAt?_ne_space here hk (classAt?_of_isEmptyLine empty)

theorem not_endsWord_of_space (h : t.classAt? p = some .space) : ¬ t.EndsWord p :=
  fun ends => ends.2.1 h

theorem not_endsWord_of_run (here : t.classAt? p = some k) (after : t.classAt? (p + 1) = some k) :
    ¬ t.EndsWord p := by
  rintro ⟨_, _, last | other⟩
  · exact absurd (lt_size_of_classAt? after) (by omega)
  · exact other (after.trans here.symm)

theorem nextWordStart_eq (h : t.classAt? p = some k) :
    ∃ r, p < r ∧ r ≤ t.size ∧ t.nextWordStart p = t.skipSpace r ∧ t.classAt? (r - 1) = some k ∧
      (k = .space ∨ t.classAt? r ≠ some k) ∧ ∀ x, p < x → x < r → ¬ t.StartsWord x := by
  have inside := lt_size_of_classAt? h
  by_cases space : k = .space
  · subst space
    refine ⟨p + 1, Nat.lt_succ_self p, inside, ?_, h, Or.inl rfl, ?_⟩
    · rw [nextWordStart, h]
      simp only
      split
      · rfl
      · next nonempty =>
        have class_ : CharClass.of t[p] = .space := (classAt?_eq_some_iff inside).1 h
        rw [skipSpace, dif_pos inside, if_pos ⟨class_, Bool.eq_false_iff.2 nonempty⟩]
    · intro x above below
      omega
  · have runs := t.runStop_runsTo k p
    have past : p < t.runStop k p := by
      refine Nat.lt_of_le_of_ne runs.le fun same => ?_
      exact runs.stop (same ▸ h)
    refine ⟨t.runStop k p, past, runStop_le_size k (Nat.le_of_lt inside), ?_, ?_, Or.inr runs.stop,
      ?_⟩
    · rw [nextWordStart, h]
      cases k with
      | space => contradiction
      | word => rfl
      | punctuation => rfl
    · exact runs.run _ (by omega) (by omega)
    · intro x above below
      exact not_startsWord_of_run space (runs.run (x - 1) (by omega) (by omega))
        (runs.run x (by omega) below) (by omega)

theorem nextWordStart_nearest (h : p < t.size) :
    p < t.nextWordStart p ∧
      (t.nextWordStart p = t.size ∨ t.StartsWord (t.nextWordStart p)) ∧
      ∀ x, p < x → x < t.nextWordStart p → ¬ t.StartsWord x := by
  obtain ⟨r, past, inside, step, before, change, run⟩ := nextWordStart_eq (classAt?_of_lt h)
  have le := le_skipSpace t r
  have le_size := skipSpace_le_size inside
  rw [step]
  refine ⟨by omega, ?_, ?_⟩
  · rcases Nat.lt_or_eq_of_le le_size with lt | ended
    · refine Or.inr ⟨lt, ?_⟩
      by_cases empty : t.isEmptyLine (t.skipSpace r)
      · exact Or.inr empty
      have other : t.classAt? (t.skipSpace r) ≠ some .space := fun space =>
        skipSpace_stop t r ⟨space, Bool.eq_false_iff.2 empty⟩
      refine Or.inl ⟨other, Or.inr ?_⟩
      rcases Nat.lt_or_eq_of_le le with skipped | still
      · have last : t.Skipped (t.skipSpace r - 1) :=
          skipSpace_skipped (p := r) (by omega) (by omega)
        rw [last.1]
        exact other.symm
      · rw [← still] at other ⊢
        rw [before]
        rcases change with space | change
        · rw [space]
          exact other.symm
        · exact change.symm
    · exact Or.inl ended
  · intro x above below
    rcases Nat.lt_or_ge x r with within | beyond
    · exact run x above within
    · exact (skipSpace_skipped beyond below).not_startsWord

theorem prevWordStart_nearest (h : 0 < p) (hp : p ≤ t.size) :
    t.prevWordStart p < p ∧
      (t.prevWordStart p = 0 ∨ t.StartsWord (t.prevWordStart p)) ∧
      ∀ x, t.prevWordStart p < x → x < p → ¬ t.StartsWord x := by
  have le := skipSpaceBack_le t (p - 1)
  have skipped (x : Nat) (above : t.skipSpaceBack (p - 1) < x) (below : x < p) :
      ¬ t.StartsWord x :=
    (skipSpaceBack_skipped above (by omega)).not_startsWord
  have stop := skipSpaceBack_stop t (p - 1)
  unfold prevWordStart
  simp only
  -- `q` is the nearest place before `p` that is not passed over
  generalize t.skipSpaceBack (p - 1) = q at le skipped stop ⊢
  have inside : q < t.size := by omega
  split
  · next space =>
    refine ⟨by omega, stop.imp_right fun kept => ⟨inside, Or.inr ?_⟩, skipped⟩
    cases empty : t.isEmptyLine q with
    | true => rfl
    | false => exact absurd ⟨space, empty⟩ kept
  · next none_there =>
    rw [classAt?_of_lt inside] at none_there
    contradiction
  · next k other here =>
    have start := runStart_le t k q
    have run (x : Nat) (above : t.runStart k q ≤ x) (below : x ≤ q) : t.classAt? x = some k := by
      rcases Nat.lt_or_eq_of_le below with before | rfl
      · exact runStart_run above before
      · exact here
    refine ⟨by omega, (runStart_stop t k q).imp_right ?_, ?_⟩
    · intro change
      refine ⟨by omega, Or.inl ⟨?_, Or.inr ?_⟩⟩
      · exact classAt?_ne_space (run _ (Nat.le_refl _) start) other
      · rw [run _ (Nat.le_refl _) start]
        exact change
    · intro x above below
      rcases Nat.lt_or_ge q x with beyond | within
      · exact skipped x beyond below
      · exact not_startsWord_of_run other (run (x - 1) (by omega) (by omega))
          (run x (by omega) within) (by omega)

theorem nextWordEnd_nearest (t : Text) (p : Nat) :
    (p < t.nextWordEnd p ∧ t.EndsWord (t.nextWordEnd p) ∧
        ∀ x, p < x → x < t.nextWordEnd p → ¬ t.EndsWord x) ∨
      t.nextWordEnd p = p ∧ ∀ x, p < x → ¬ t.EndsWord x := by
  have gap := t.runStop_runsTo .space (p + 1)
  have blank (x : Nat) (above : p < x) (below : x < t.runStop .space (p + 1)) : ¬ t.EndsWord x :=
    not_endsWord_of_space (gap.run x above below)
  unfold nextWordEnd
  simp only
  -- `q` is the nearest place after `p` that is no white space
  generalize t.runStop .space (p + 1) = q at gap blank ⊢
  have past := gap.le
  split
  · next k here =>
    have runs := t.runStop_runsTo k q
    have further : q < t.runStop k q := by
      refine Nat.lt_of_le_of_ne runs.le fun same => ?_
      exact runs.stop (same ▸ here)
    have last := runs.run (t.runStop k q - 1) (by omega) (by omega)
    refine Or.inl ⟨by omega, ⟨lt_size_of_classAt? last, ?_, Or.inr ?_⟩, ?_⟩
    · rw [last, ← here]
      exact gap.stop
    · rw [last, Nat.sub_add_cancel (by omega)]
      exact runs.stop
    · intro x above below
      rcases Nat.lt_or_ge x q with before | within
      · exact blank x above before
      · exact not_endsWord_of_run (runs.run x within (by omega))
          (runs.run (x + 1) (by omega) (by omega))
  · next none_there =>
    refine Or.inr ⟨rfl, ?_⟩
    intro x above ends
    rcases Nat.lt_or_ge x q with before | beyond
    · exact blank x above before ends
    · have inside : q < t.size := Nat.lt_of_le_of_lt beyond ends.1
      rw [classAt?_of_lt inside] at none_there
      contradiction

theorem stepMany_one (next : Nat → Nat) (p : Nat) : stepMany next 1 p = next p := by
  by_cases still : next p = p <;> simp [stepMany, still]

theorem stepMany_fixed {next : Nat → Nat} (h : next p = p) (n : Nat) : stepMany next n p = p := by
  cases n with
  | zero => rfl
  | succ n => rw [stepMany, if_pos h]

/-- Where a step leads to the first of the places ahead, as long as there are any, and else to a
last place for good, counted steps lead to the place with this number or to the last one. -/
theorem stepMany_eq_getElem? {next : Nat → Nat} {ahead : Nat → List Nat} {size : Nat}
    (rest : Nat → Nat)
    (step : ∀ p ≤ size,
      ahead p = [] ∧ next p = rest p ∧ next (rest p) = rest p ∨
        next p ≤ size ∧ next p ≠ p ∧ ahead p = next p :: ahead (next p) ∧ rest (next p) = rest p)
    (hn : 1 ≤ n) (hp : p ≤ size) : stepMany next n p = (ahead p)[n - 1]?.getD (rest p) := by
  obtain ⟨n, rfl⟩ := Nat.exists_eq_add_of_le' hn
  rw [Nat.add_sub_cancel]
  clear hn
  induction n generalizing p with
  | zero =>
    rw [stepMany_one]
    rcases step p hp with ⟨none_ahead, last, _⟩ | ⟨_, _, some_ahead, _⟩
    · rw [none_ahead]
      exact last
    · rw [some_ahead]
      rfl
  | succ n ih =>
    rcases step p hp with ⟨none_ahead, last, fixed⟩ | ⟨inside, moves, some_ahead, same⟩
    · rw [none_ahead, stepMany, last, stepMany_fixed fixed]
      exact ite_eq_right_iff.2 Eq.symm
    · rw [stepMany, if_neg moves, ih inside, some_ahead, List.getElem?_cons_succ, same]

theorem wordStartsAfter_step (hp : p ≤ t.size) :
    t.wordStartsAfter p = [] ∧ t.nextWordStart p = t.size ∨
      t.nextWordStart p < t.size ∧ p < t.nextWordStart p ∧
        t.wordStartsAfter p = t.nextWordStart p :: t.wordStartsAfter (t.nextWordStart p) := by
  rcases Nat.lt_or_eq_of_le hp with inside | rfl
  · obtain ⟨past, reached, between⟩ := nextWordStart_nearest inside
    rcases Nat.lt_or_eq_of_le (nextWordStart_le_size hp) with lt | ended
    · have starts := reached.resolve_left (Nat.ne_of_lt lt)
      refine Or.inr ⟨lt, past, ?_⟩
      rw [wordStartsAfter, offsetsWith_split past lt starts, offsetsWith_eq_nil between]
      rfl
    · exact Or.inl ⟨offsetsWith_eq_nil (ended ▸ between), ended⟩
  · refine Or.inl ⟨offsetsWith_eq_nil fun x above below => by omega, ?_⟩
    rw [nextWordStart, classAt?_eq_none (Nat.le_refl _)]

theorem wordStartsBefore_step (hp : p ≤ t.size) :
    t.wordStartsBefore p = [] ∧ t.prevWordStart p = 0 ∨
      t.prevWordStart p < p ∧
        t.wordStartsBefore p = t.prevWordStart p :: t.wordStartsBefore (t.prevWordStart p) := by
  rcases Nat.eq_zero_or_pos p with rfl | pos
  · exact Or.inl ⟨rfl, Nat.le_zero.1 (prevWordStart_le t 0)⟩
  · obtain ⟨before, reached, between⟩ := prevWordStart_nearest pos hp
    by_cases starts : t.StartsWord (t.prevWordStart p)
    · refine Or.inr ⟨before, ?_⟩
      rw [wordStartsBefore, offsetsWith_split (Nat.zero_le _) before starts,
        offsetsWith_eq_nil between, List.reverse_append]
      rfl
    · have start := reached.resolve_right starts
      refine Or.inl ⟨?_, start⟩
      rw [wordStartsBefore, offsetsWith_eq_nil]
      · rfl
      · intro x _ below
        rcases Nat.eq_zero_or_pos x with rfl | above
        · exact start ▸ starts
        · exact between x (start ▸ above) below

theorem wordEndsAfter_step (t : Text) (p : Nat) :
    t.wordEndsAfter p = [] ∧ t.nextWordEnd p = p ∨
      t.nextWordEnd p < t.size ∧ p < t.nextWordEnd p ∧
        t.wordEndsAfter p = t.nextWordEnd p :: t.wordEndsAfter (t.nextWordEnd p) := by
  rcases nextWordEnd_nearest t p with ⟨past, ends, between⟩ | ⟨still, none_after⟩
  · refine Or.inr ⟨ends.1, past, ?_⟩
    rw [wordEndsAfter, offsetsWith_split past ends.1 ends, offsetsWith_eq_nil between]
    rfl
  · exact Or.inl ⟨offsetsWith_eq_nil fun x above _ => none_after x above, still⟩

theorem stepMany_nextWordStart (hp : p ≤ t.size) (hn : 1 ≤ n) :
    stepMany t.nextWordStart n p = (t.wordStartsAfter p)[n - 1]?.getD t.size := by
  have fixed : t.nextWordStart t.size = t.size := by
    rw [nextWordStart, classAt?_eq_none (Nat.le_refl _)]
  refine stepMany_eq_getElem? (fun _ => t.size) ?_ hn hp
  intro p hp
  rcases wordStartsAfter_step hp with ⟨none_ahead, ended⟩ | ⟨inside, past, some_ahead⟩
  · exact Or.inl ⟨none_ahead, ended, fixed⟩
  · exact Or.inr ⟨Nat.le_of_lt inside, Nat.ne_of_gt past, some_ahead, rfl⟩

theorem stepMany_prevWordStart (hp : p ≤ t.size) (hn : 1 ≤ n) :
    stepMany t.prevWordStart n p = (t.wordStartsBefore p)[n - 1]?.getD 0 := by
  refine stepMany_eq_getElem? (fun _ => 0) ?_ hn hp
  intro p hp
  rcases wordStartsBefore_step hp with ⟨none_ahead, start⟩ | ⟨before, some_ahead⟩
  · exact Or.inl ⟨none_ahead, start, Nat.le_zero.1 (prevWordStart_le t 0)⟩
  · exact Or.inr ⟨by omega, Nat.ne_of_lt before, some_ahead, rfl⟩

theorem stepMany_nextWordEnd (hp : p ≤ t.size) (hn : 1 ≤ n) :
    stepMany t.nextWordEnd n p =
      (t.wordEndsAfter p)[n - 1]?.getD ((t.wordEndsAfter p).getLast?.getD p) := by
  refine stepMany_eq_getElem? (fun p => (t.wordEndsAfter p).getLast?.getD p) ?_ hn hp
  intro p hp
  rcases wordEndsAfter_step t p with ⟨none_ahead, still⟩ | ⟨inside, past, some_ahead⟩
  · refine Or.inl ⟨none_ahead, ?_, ?_⟩ <;> simp [none_ahead, still]
  · refine Or.inr ⟨Nat.le_of_lt inside, Nat.ne_of_gt past, some_ahead, ?_⟩
    rw [some_ahead, List.getLast?_cons, Option.getD_some]

/-- Counted steps from word to word lead to the word start or the word end with this number, seen
from where they begin. Where there are not so many, they lead to the end or the start of the text,
or to the last of the word ends. -/
theorem counted_steps_reach_boundaries (hp : p ≤ t.size) (hn : 1 ≤ n) :
    stepMany t.nextWordStart n p = (t.wordStartsAfter p)[n - 1]?.getD t.size ∧
      stepMany t.prevWordStart n p = (t.wordStartsBefore p)[n - 1]?.getD 0 ∧
      stepMany t.nextWordEnd n p =
        (t.wordEndsAfter p)[n - 1]?.getD ((t.wordEndsAfter p).getLast?.getD p) :=
  ⟨stepMany_nextWordStart hp hn, stepMany_prevWordStart hp hn, stepMany_nextWordEnd hp hn⟩

theorem counted_steps_reach_boundaries_empty_line :
    let t := ofString "a b.\n\n c"
    2 ≤ t.size ∧ t.wordStartsAfter 2 = [3, 5, 7] ∧ stepMany t.nextWordStart 2 2 = 5 ∧
      t.wordStartsBefore 6 = [5, 3, 2, 0] ∧ stepMany t.prevWordStart 4 6 = 0 ∧
      t.wordEndsAfter 2 = [3, 7] ∧ stepMany t.nextWordEnd 5 2 = 7 := by
  intro t
  have inside : 2 ≤ t.size := by decide
  have startsAfter : t.wordStartsAfter 2 = [3, 5, 7] := by decide +kernel
  have startsBefore : t.wordStartsBefore 6 = [5, 3, 2, 0] := by decide +kernel
  have endsAfter : t.wordEndsAfter 2 = [3, 7] := by decide +kernel
  have second := (counted_steps_reach_boundaries (n := 2) inside (by decide)).1
  have fourth :=
    (counted_steps_reach_boundaries (t := t) (p := 6) (n := 4) (by decide) (by decide)).2.1
  have fifth := (counted_steps_reach_boundaries (n := 5) inside (by decide)).2.2
  rw [startsAfter] at second
  rw [startsBefore] at fourth
  rw [endsAfter] at fifth
  exact ⟨inside, startsAfter, second, startsBefore, fourth, endsAfter, fifth⟩

end Text

end ModalEditing
