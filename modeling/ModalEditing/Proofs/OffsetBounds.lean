import ModalEditing.Command.Basic

/-! Offsets within a text. Lines, words and motions lead from an offset within the text to
another one, and spans that operators and selections cover end within it. -/

namespace ModalEditing

namespace Text

variable {t : Text} {p q : Nat}

theorem startBelow_mono (t : Text) (h : p ≤ q) (blanks blanks' : Nat) :
    (t.startBelow p blanks).offset ≤ (t.startBelow q blanks').offset := by
  induction q generalizing p blanks blanks' with
  | zero =>
    obtain rfl := Nat.le_zero.1 h
    exact Nat.le_refl 0
  | succ q ih =>
    rcases Nat.lt_or_eq_of_le h with below | rfl
    · have inside := startBelow_le t p blanks
      rw [startBelow]
      split
      · exact Nat.le_trans inside h
      · exact ih (Nat.le_of_lt_succ below) _ _
    · rw [startBelow, startBelow]
      split
      · exact Nat.le_refl _
      · exact ih (Nat.le_refl q) _ _

theorem lineStart_mono (t : Text) (h : p ≤ q) : t.lineStart p ≤ t.lineStart q :=
  startBelow_mono t (by omega) 0 0

theorem le_lineStop (h : p ≤ t.size) : p ≤ t.lineStop p := by
  rcases Nat.lt_or_eq_of_le h with inside | rfl
  · exact Nat.le_of_lt (lt_lineStop inside)
  · exact Nat.le_of_eq (by rw [lineStop, dif_neg (Nat.lt_irrefl _)])

theorem contentStop_le_size (t : Text) (p : Nat) : t.contentStop p ≤ t.size := by
  have stop := lineStop_le_size t p
  unfold contentStop
  simp only
  split <;> omega

theorem add_blanksFrom_le_size (h : p ≤ t.size) : p + t.blanksFrom p ≤ t.size := by
  fun_induction blanksFrom t p with
  | case1 p inside _ ih =>
    have := ih inside
    omega
  | case2 => exact h
  | case3 => exact h

theorem firstNonBlank_le_size (h : p ≤ t.size) : t.firstNonBlank p ≤ t.size :=
  add_blanksFrom_le_size h

theorem lineBefore?_le (h : t.lineBefore? p = some q) : q ≤ p := Nat.le_of_lt (lineBefore?_lt h)

theorem lineAfter?_eq_some (h : t.lineAfter? p = some q) :
    p < q ∧ q < t.size ∧ q = t.lineStop p := by
  unfold lineAfter? at h
  split at h
  · next more =>
    obtain rfl := Option.some.inj h
    refine ⟨?_, more, rfl⟩
    by_cases inside : p < t.size
    · exact lt_lineStop inside
    · rw [lineStop, dif_neg inside] at more
      exact absurd more (Nat.lt_irrefl _)
  · contradiction

theorem lastOnLine_le_size (h : p ≤ t.size) : t.lastOnLine p ≤ t.size := by
  have stop := contentStop_le_size t p
  unfold lastOnLine
  split <;> omega

theorem lastLine_le_size (t : Text) : t.lastLine ≤ t.size := by
  unfold lastLine
  simp only
  split <;> exact lineStart_le_size t _

theorem walkLines_induction {P : Nat → Prop} {next? : Nat → Option Nat} (n : Nat) (hp : P p)
    (step : ∀ p q, P p → next? p = some q → P q) : P (walkLines next? n p) := by
  induction n generalizing p with
  | zero => exact hp
  | succ n ih =>
    rw [walkLines]
    split
    · next q hq => exact ih (step p q hp hq)
    · exact hp

theorem walkLines_up_le (t : Text) (n p : Nat) : walkLines t.lineBefore? n p ≤ p :=
  walkLines_induction (P := fun q => q ≤ p) n (Nat.le_refl p)
    fun _ _ below h => Nat.le_trans (lineBefore?_le h) below

theorem walkLines_down_le_size (n : Nat) (h : p ≤ t.size) :
    walkLines t.lineAfter? n p ≤ t.size :=
  walkLines_induction (P := fun q => q ≤ t.size) n h
    fun _ _ _ hq => Nat.le_of_lt (lineAfter?_eq_some hq).2.1

theorem walkLines_down_lt_size (n : Nat) (h : p < t.size) : walkLines t.lineAfter? n p < t.size :=
  walkLines_induction (P := fun q => q < t.size) n h fun _ _ _ hq => (lineAfter?_eq_some hq).2.1

theorem walkLines_down_ge (t : Text) (n p : Nat) : p ≤ walkLines t.lineAfter? n p :=
  walkLines_induction (P := fun q => p ≤ q) n (Nat.le_refl p)
    fun _ _ above hq => Nat.le_trans above (Nat.le_of_lt (lineAfter?_eq_some hq).1)

theorem lineNumbered_le_size (t : Text) (n : Nat) : t.lineNumbered n ≤ t.size :=
  walkLines_down_le_size _ (Nat.zero_le _)

theorem runStop_le_size (k : CharClass) (h : p ≤ t.size) : t.runStop k p ≤ t.size := by
  fun_induction runStop t k p with
  | case1 p inside _ ih => exact ih inside
  | case2 => exact h
  | case3 => exact h

theorem runStart_le (t : Text) (k : CharClass) (p : Nat) : t.runStart k p ≤ p := by
  induction p with
  | zero => exact Nat.le_refl 0
  | succ p ih =>
    rw [runStart]
    split <;> omega

theorem skipSpace_le_size (h : p ≤ t.size) : t.skipSpace p ≤ t.size := by
  fun_induction skipSpace t p with
  | case1 p inside _ ih => exact ih inside
  | case2 => exact h
  | case3 => exact h

theorem skipSpaceBack_le (t : Text) (p : Nat) : t.skipSpaceBack p ≤ p := by
  induction p with
  | zero => exact Nat.le_refl 0
  | succ p ih =>
    rw [skipSpaceBack]
    split <;> omega

theorem lt_size_of_classAt? {k : CharClass} (h : t.classAt? p = some k) : p < t.size := by
  unfold classAt? at h
  obtain ⟨c, hc, _⟩ := Option.map_eq_some_iff.1 h
  exact (Array.getElem?_eq_some_iff.1 hc).1

theorem nextWordStart_le_size (h : p ≤ t.size) : t.nextWordStart p ≤ t.size := by
  unfold nextWordStart
  split
  · next space =>
    have inside := lt_size_of_classAt? space
    refine skipSpace_le_size ?_
    split <;> omega
  · exact skipSpace_le_size (runStop_le_size _ h)
  · exact h

theorem prevWordStart_le (t : Text) (p : Nat) : t.prevWordStart p ≤ p := by
  have skipped := skipSpaceBack_le t (p - 1)
  unfold prevWordStart
  simp only
  split
  · omega
  · omega
  · next k _ _ =>
    have := runStart_le t k (t.skipSpaceBack (p - 1))
    omega

theorem nextWordEnd_le_size (h : p ≤ t.size) : t.nextWordEnd p ≤ t.size := by
  unfold nextWordEnd
  simp only
  split
  · next k class_ =>
    have := runStop_le_size k (Nat.le_of_lt (lt_size_of_classAt? class_))
    omega
  · exact h

theorem stepMany_le {n : Nat} {next : Nat → Nat} (k : Nat) (h : p ≤ n)
    (step : ∀ p ≤ n, next p ≤ n) : stepMany next k p ≤ n := by
  induction k generalizing p with
  | zero => exact h
  | succ k ih =>
    rw [stepMany]
    split
    · exact h
    · exact ih (step p h)

end Text

structure Span.Within (r : Span) (size : Nat) : Prop where
  forward : r.start ≤ r.stop
  inside : r.stop ≤ size

theorem Span.Within.start_le {r : Span} {size : Nat} (h : r.Within size) : r.start ≤ size :=
  Nat.le_trans h.forward h.inside

theorem Span.clamp_within (r : Span) (size : Nat) : (r.clamp size).Within size where
  forward := clamp_start_le_stop r size
  inside := clamp_stop_le r size

theorem Span.nonempty?_within {r s : Span} {size : Nat} (h : r.Within size)
    (hs : r.nonempty? = some s) : s.Within size := by
  unfold nonempty? at hs
  split at hs
  · contradiction
  · exact Option.some.inj hs ▸ h

theorem Span.between_within {a b size : Nat} (ha : a ≤ size) (hb : b ≤ size) :
    (Span.between a b).Within size := by
  constructor <;> simp only [between] <;> omega

namespace Motion

variable {m : Motion} {t : Text} {cursor q : Nat} {ctx : MotionContext} {r : Span}

theorem placeOnLine_le_size {p : Nat} (h : p ≤ t.size) (c : Column) :
    t.placeOnLine p c ≤ t.size := by
  have last := Text.lastOnLine_le_size h
  cases c with
  | offset n =>
    rw [Text.placeOnLine]
    omega
  | last => exact last

theorem lineAway?_le {next? : Nat → Option Nat} {n p size : Nat}
    (walk : Text.walkLines next? n p ≤ size) (h : lineAway? next? n p = some q) : q ≤ size := by
  unfold lineAway? moved? at h
  split at h
  · contradiction
  · exact Option.some.inj h ▸ walk

theorem moved?_le {p size : Nat} (hq : q ≤ size) {s : Nat} (h : moved? p q = some s) :
    s ≤ size := by
  unfold moved? at h
  split at h
  · contradiction
  · exact Option.some.inj h ▸ hq

/-- Motions lead to offsets within the text, also from a cursor past it. -/
theorem target?_le_size (h : m.target? t cursor ctx = some q) : q ≤ t.size := by
  have inside : min cursor t.size ≤ t.size := Nat.min_le_right _ _
  have start := Text.lineStart_le_size t (min cursor t.size)
  unfold target? at h
  cases m with
  | left => exact moved?_le (by omega) h
  | right =>
    have last := Text.lastOnLine_le_size start
    simp only at h
    split at h
    · rw [← Option.some.inj h]
      omega
    · contradiction
  | up =>
    obtain ⟨p, hp, rfl⟩ := Option.map_eq_some_iff.1 h
    refine placeOnLine_le_size (lineAway?_le ?_ hp) _
    exact Nat.le_trans (Text.walkLines_up_le t _ _) start
  | down =>
    obtain ⟨p, hp, rfl⟩ := Option.map_eq_some_iff.1 h
    exact placeOnLine_le_size (lineAway?_le (Text.walkLines_down_le_size _ start) hp) _
  | lineStart => exact Option.some.inj h ▸ start
  | firstNonBlank => exact Option.some.inj h ▸ Text.firstNonBlank_le_size start
  | lineEnd =>
    rw [← Option.some.inj h]
    refine Text.lastOnLine_le_size ?_
    cases away : lineAway? t.lineAfter? (max ctx.count 1 - 1) (t.lineStart (min cursor t.size)) with
    | none => exact start
    | some p => exact lineAway?_le (Text.walkLines_down_le_size _ start) away
  | fileStart =>
    exact Option.some.inj h ▸ Text.firstNonBlank_le_size (Text.lineNumbered_le_size t _)
  | fileEnd =>
    rw [← Option.some.inj h]
    refine Text.firstNonBlank_le_size ?_
    cases ctx.typed with
    | none => exact Text.lastLine_le_size t
    | some n => exact Text.lineNumbered_le_size t n
  | wordForward =>
    refine moved?_le ?_ h
    omega
  | wordBackward =>
    refine moved?_le ?_ h
    exact Text.stepMany_le _ inside fun p hp => Nat.le_trans (Text.prevWordStart_le t p) hp
  | wordEnd =>
    refine moved?_le ?_ h
    exact Text.stepMany_le _ inside fun p hp => Text.nextWordEnd_le_size hp

theorem exclusiveEnd?_le_size (hc : cursor ≤ t.size) (h : m.exclusiveEnd? t cursor ctx = some q) :
    q ≤ t.size := by
  have stop := Text.contentStop_le_size t cursor
  unfold exclusiveEnd? at h
  split at h
  · rw [← Option.some.inj h]
    omega
  · rw [← Option.some.inj h]
    exact Text.stepMany_le _ hc fun p hp => Text.nextWordStart_le_size hp
  · exact target?_le_size h

theorem beforeLineStart_within (h : r.Within t.size) : (beforeLineStart t r).Within t.size := by
  unfold beforeLineStart
  split
  · next newline =>
    have := h.inside
    constructor <;> simp only <;> omega
  · exact h

theorem lines_within {p : Nat} (hpq : p ≤ q) : t.lineStart p ≤ t.lineStop (t.lineStart q) :=
  Nat.le_trans (Text.lineStart_mono t hpq) (Text.le_lineStop (Text.lineStart_le_size t q))

theorem span?_within (h : m.span? t cursor ctx = some r) : r.Within t.size := by
  have inside : min cursor t.size ≤ t.size := Nat.min_le_right _ _
  unfold span? at h
  simp only at h
  split at h
  · obtain ⟨target, _, hr⟩ := Option.bind_eq_some_iff.1 h
    rw [← Option.some.inj hr]
    exact ⟨lines_within (Nat.le_trans (Nat.min_le_left _ _) (Nat.le_max_left _ _)),
      Text.lineStop_le_size t _⟩
  · refine Span.nonempty?_within ?_ h
    -- the start is at most the cursor, wherever the motion leads
    generalize (m.target? t (min cursor t.size) ctx).getD (min cursor t.size) = target
    have content := Text.contentStop_le_size t (max (min cursor t.size) target)
    constructor <;> simp only <;> omega
  · obtain ⟨target, found, hr⟩ := Option.bind_eq_some_iff.1 h
    refine Span.nonempty?_within (beforeLineStart_within (Span.between_within inside ?_)) hr
    exact exclusiveEnd?_le_size inside found

end Motion

theorem Text.wholeLines_within (t : Text) (cursor count : Nat) :
    (t.wholeLines cursor count).Within t.size where
  forward := by
    have start := lineStart_le_size t cursor
    exact Nat.le_trans (t.walkLines_down_ge _ _) (le_lineStop (walkLines_down_le_size _ start))
  inside := lineStop_le_size t _

theorem Argument.span?_within {a : Argument} {t : Text} {cursor : Nat} {ctx : MotionContext}
    {r : Span} (h : a.span? t cursor ctx = some r) : r.Within t.size := by
  cases a with
  | motion m => exact Motion.span?_within h
  | wholeLines => exact Option.some.inj h ▸ t.wholeLines_within cursor ctx.count
  | textObject o =>
    obtain ⟨found, _, rfl⟩ := Option.map_eq_some_iff.1 h
    exact found.clamp_within t.size

theorem Selection.span_within (s : Selection) (t : Text) : (s.span t).Within t.size := by
  have ordered : min (min s.anchor s.head) t.size ≤ min (max s.anchor s.head) t.size := by omega
  unfold span
  simp only
  split
  · refine ⟨?_, Text.lineStop_le_size t _⟩
    have start := Text.lineStart_le t (min (min s.anchor s.head) t.size)
    have stop := Text.le_lineStop (t := t) (Nat.min_le_right (max s.anchor s.head) t.size)
    exact Nat.le_trans (Nat.le_trans start ordered) stop
  · constructor <;> simp only <;> split <;> omega
  · constructor <;> simp only <;> split <;> omega

end ModalEditing
