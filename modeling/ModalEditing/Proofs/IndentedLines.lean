import ModalEditing.Proofs.OffsetBounds
import ModalEditing.Text.Indentation

/-! Lines with text on them, told by where they start and by the blanks that open them. The
scan of indentation reads a text character by character, and comes to the same as going from
line to line; a search leads to the nearest line that fits. -/

namespace ModalEditing

namespace Text

/-- A line starts at `p`, or the text ends there without one. -/
structure StartsLine (t : Text) (p : Nat) : Prop where
  le_size : p ≤ t.size
  after_newline : p = 0 ∨ t[p - 1]? = some '\n'

def HasText (t : Text) (p : Nat) : Prop := ∃ c, t[t.firstNonBlank p]? = some c ∧ c ≠ '\n'

structure FittingLine (t : Text) (fits : Nat → Bool) (p : Nat) : Prop where
  starts : t.StartsLine p
  text : t.HasText p
  fits : fits (t.blanksFrom p) = true

structure NearestAbove (t : Text) (fits : Nat → Bool) (p q : Nat) : Prop where
  line : t.FittingLine fits q
  above : q < p
  nearest : ∀ r, t.FittingLine fits r → r < p → r ≤ q

structure NearestBelow (t : Text) (fits : Nat → Bool) (p q : Nat) : Prop where
  line : t.FittingLine fits q
  below : p < q
  nearest : ∀ r, t.FittingLine fits r → p < r → q ≤ r

variable {t : Text} {fits : Nat → Bool} {p q r w : Nat}

theorem NearestAbove.unique (hq : t.NearestAbove fits p q) (hr : t.NearestAbove fits p r) : q = r :=
  Nat.le_antisymm (hr.nearest q hq.line hq.above) (hq.nearest r hr.line hr.above)

theorem NearestBelow.unique (hq : t.NearestBelow fits p q) (hr : t.NearestBelow fits p r) : q = r :=
  Nat.le_antisymm (hq.nearest r hr.line hr.below) (hr.nearest q hq.line hq.below)

theorem startsLine_zero (t : Text) : t.StartsLine 0 := ⟨Nat.zero_le _, Or.inl rfl⟩

theorem startBelow_after_newline (t : Text) (p blanks : Nat) :
    let start := (t.startBelow p blanks).offset
    start = 0 ∨ t[start - 1]? = some '\n' := by
  induction p generalizing blanks with
  | zero => exact Or.inl rfl
  | succ p ih =>
    rw [startBelow]
    split
    · next newline => exact Or.inr newline
    · exact ih _

theorem lineStart_startsLine (t : Text) (p : Nat) : t.StartsLine (t.lineStart p) where
  le_size := lineStart_le_size t p
  after_newline := startBelow_after_newline t _ 0

theorem StartsLine.le_startBelow (h : t.StartsLine q) (le : q ≤ p) (blanks : Nat) :
    q ≤ (t.startBelow p blanks).offset := by
  induction p generalizing blanks with
  | zero => omega
  | succ p ih =>
    rw [startBelow]
    split
    · exact le
    · next inside =>
      rcases Nat.lt_or_eq_of_le le with below | rfl
      · exact ih (Nat.le_of_lt_succ below) _
      · -- a line that starts at `p + 1` has a newline at `p`
        rcases h.after_newline with zero | newline
        · omega
        · exact absurd newline inside

theorem StartsLine.le_lineStart (h : t.StartsLine q) (le : q ≤ p) : q ≤ t.lineStart p :=
  h.le_startBelow (Nat.le_min.2 ⟨le, h.le_size⟩) 0

theorem StartsLine.lineStart_eq (h : t.StartsLine p) : t.lineStart p = p :=
  Nat.le_antisymm (lineStart_le t p) (h.le_lineStart (Nat.le_refl p))

theorem lineStart_min (t : Text) (p : Nat) : t.lineStart (min p t.size) = t.lineStart p := by
  rw [lineStart, startAround, Nat.min_assoc, Nat.min_self]
  rfl

theorem lineStop_starts_or_ends (t : Text) (p : Nat) :
    t.StartsLine (t.lineStop p) ∨ t.lineStop p = t.size := by
  fun_induction lineStop t p with
  | case1 p inside newline =>
    have here : t[p]? = some '\n' := by rw [Array.getElem?_eq_getElem inside, newline]
    exact Or.inl ⟨inside, Or.inr here⟩
  | case2 p inside other ih => exact ih
  | case3 => exact Or.inr rfl

theorem StartsLine.lineStop_le (h : t.StartsLine q) (lt : p < q) : t.lineStop p ≤ q := by
  have inside := h.le_size
  fun_induction lineStop t p with
  | case1 => exact lt
  | case2 p hp other ih =>
    rcases Nat.lt_or_eq_of_le (Nat.succ_le_of_lt lt) with later | next
    · exact ih later
    · subst next
      rcases h.after_newline with zero | newline
      · contradiction
      · rw [Nat.succ_sub_one, Array.getElem?_eq_getElem hp, Option.some.injEq] at newline
        contradiction
  | case3 => omega

theorem StartsLine.startsLine_lineStop (h : t.StartsLine q) (lt : p < q) :
    t.StartsLine (t.lineStop p) := by
  rcases t.lineStop_starts_or_ends p with starts | ends
  · exact starts
  · have same : t.lineStop p = q := by
      have := h.lineStop_le lt
      have := h.le_size
      omega
    rw [same]
    exact h

theorem lineStop_size (t : Text) : t.lineStop t.size = t.size := by
  rw [lineStop, dif_neg (Nat.lt_irrefl _)]

theorem le_lineStop_lineStart (h : p ≤ t.size) : p ≤ t.lineStop (t.lineStart p) := by
  rcases t.lineStop_starts_or_ends (t.lineStart p) with starts | ends
  · refine Nat.le_of_not_lt fun short => ?_
    -- a line that started before `p` would be the one around `p`
    have last := starts.le_lineStart (Nat.le_of_lt short)
    have stop := le_lineStop (lineStart_le_size t p)
    have past : t.lineStart p < t.lineStop (t.lineStart p) := lt_lineStop (by omega)
    omega
  · rw [ends]
    exact h

theorem HasText.lt_size (h : t.HasText p) : p < t.size := by
  obtain ⟨c, hc, _⟩ := h
  have inside := (Array.getElem?_eq_some_iff.1 hc).1
  have : p ≤ t.firstNonBlank p := Nat.le_add_right _ _
  omega

theorem FittingLine.lt_size (h : t.FittingLine fits p) : p < t.size := h.text.lt_size

theorem FittingLine.mono {m n : Nat} (h : t.FittingLine (· < m) p) (le : m ≤ n) :
    t.FittingLine (· < n) p :=
  ⟨h.starts, h.text, decide_eq_true (Nat.lt_of_lt_of_le (of_decide_eq_true h.fits) le)⟩

theorem isBlank_newline : isBlank '\n' = false := by decide

theorem firstNonBlank_of_blank (h : p < t.size) (blank : isBlank t[p]) :
    t.firstNonBlank p = t.firstNonBlank (p + 1) := by
  rw [firstNonBlank, blanksFrom, dif_pos h, if_pos blank, firstNonBlank]
  omega

theorem firstNonBlank_of_other (h : p < t.size) (other : ¬ isBlank t[p]) : t.firstNonBlank p = p := by
  rw [firstNonBlank, blanksFrom, dif_pos h, if_neg other, Nat.add_zero]

theorem hasText_of_blank (h : p < t.size) (blank : isBlank t[p]) :
    t.HasText p ↔ t.HasText (p + 1) := by
  rw [HasText, HasText, firstNonBlank_of_blank h blank]

theorem hasText_of_other (h : p < t.size) (other : ¬ isBlank t[p]) :
    t.HasText p ↔ t[p] ≠ '\n' := by
  simp [HasText, firstNonBlank_of_other h other, Array.getElem?_eq_getElem h]

theorem lineStop_of_blank (h : p < t.size) (blank : isBlank t[p]) :
    t.lineStop p = t.lineStop (p + 1) := by
  have inline : t[p] ≠ '\n' := by
    intro newline
    rw [newline, isBlank_newline] at blank
    contradiction
  rw [lineStop, dif_pos h, if_neg inline]

theorem isBlank_of_lt_firstNonBlank (le : p ≤ q) (lt : q < t.firstNonBlank p) :
    ∃ c, t[q]? = some c ∧ isBlank c := by
  fun_induction blanksFrom t p with
  | case1 p inside blank ih =>
    rcases Nat.lt_or_eq_of_le le with later | rfl
    · exact ih later (firstNonBlank_of_blank inside blank ▸ lt)
    · exact ⟨t[p], Array.getElem?_eq_getElem inside, blank⟩
  | case2 p inside other =>
    rw [firstNonBlank_of_other inside other] at lt
    omega
  | case3 p outside =>
    rw [firstNonBlank, blanksFrom, dif_neg outside] at lt
    omega

theorem not_isBlank_firstNonBlank {c : Char} (h : t[t.firstNonBlank p]? = some c) :
    ¬ isBlank c := by
  fun_induction blanksFrom t p with
  | case1 p inside blank ih => exact ih (firstNonBlank_of_blank inside blank ▸ h)
  | case2 p inside other =>
    rw [firstNonBlank_of_other inside other, Array.getElem?_eq_getElem inside] at h
    exact Option.some.inj h ▸ other
  | case3 p outside =>
    rw [firstNonBlank, blanksFrom, dif_neg outside, Nat.add_zero,
      Array.getElem?_eq_none (by omega)] at h
    contradiction

/-- The blanks counted on the way back are those that open the line if another character has been
passed, and else all characters passed. -/
theorem leadingBlanks_startBelow (h : p ≤ t.size) (blanks : Nat) :
    let line := t.startBelow p blanks
    line.leadingBlanks =
      if t.blanksFrom line.offset < p - line.offset then t.blanksFrom line.offset
      else blanks + (p - line.offset) := by
  induction p generalizing blanks with
  | zero => simp [startBelow]
  | succ p ih =>
    obtain ⟨c, here⟩ : ∃ c, t[p]? = some c := ⟨_, Array.getElem?_eq_getElem h⟩
    rw [startBelow, here, Option.any_some]
    split
    · simp
    · by_cases blank : isBlank c
      · rw [if_pos blank]
        have below := startBelow_le t p (blanks + 1)
        have counted := ih (Nat.le_of_succ_le h) (blanks + 1)
        generalize t.startBelow p (blanks + 1) = line at below counted
        -- the blank at `p` is not the character after the blanks that open the line
        have more : t.firstNonBlank line.offset ≠ p := by
          rintro rfl
          exact not_isBlank_firstNonBlank here blank
        rw [firstNonBlank] at more
        simp only at counted ⊢
        rw [counted]
        split <;> split <;> omega
      · rw [if_neg blank]
        have below := startBelow_le t p 0
        have counted := ih (Nat.le_of_succ_le h) 0
        generalize t.startBelow p 0 = line at below counted
        have stops : t.firstNonBlank line.offset ≤ p := by
          refine Nat.le_of_not_lt fun past => ?_
          obtain ⟨c', there, blank'⟩ := isBlank_of_lt_firstNonBlank below past
          obtain rfl := Option.some.inj (here.symm.trans there)
          exact blank blank'
        rw [firstNonBlank] at stops
        simp only at counted ⊢
        rw [counted]
        split <;> split <;> omega

theorem StartsLine.lineStart_firstNonBlank (h : t.StartsLine p) :
    t.lineStart (t.firstNonBlank p) = p := by
  have le : p ≤ t.firstNonBlank p := Nat.le_add_right p _
  have starts := t.lineStart_startsLine (t.firstNonBlank p)
  have below := t.lineStart_le (t.firstNonBlank p)
  rcases Nat.lt_or_eq_of_le (h.le_lineStart le) with later | same
  · -- a newline before a later line start would be one of the blanks
    generalize t.lineStart (t.firstNonBlank p) = q at starts below later
    obtain ⟨c, here, blank⟩ :=
      isBlank_of_lt_firstNonBlank (t := t) (p := p) (q := q - 1) (by omega) (by omega)
    rcases starts.after_newline with zero | newline
    · omega
    · rw [here, Option.some.injEq] at newline
      rw [newline, isBlank_newline] at blank
      contradiction
  · exact same.symm

end Text

namespace IndentScan

open Text

variable {t : Text} {fits : Nat → Bool} {s : IndentScan} {p w : Nat} {c : Char}

theorem step_newline (h : s.phase ≠ .inText) (p : Nat) :
    s.step p '\n' = ({ lineStart := p + 1 }, .blank s.lineStart) := by
  unfold step
  split
  · contradiction
  · rfl

theorem step_blank (h : s.phase ≠ .inText) (p : Nat) (blank : isBlank c) :
    s.step p c = ({ s with phase := .inBlank, width := s.width + 1 }, .more) := by
  have inline : c ≠ '\n' := by
    rintro rfl
    rw [isBlank_newline] at blank
    contradiction
  unfold step
  split
  · contradiction
  · rw [if_neg inline, if_pos blank]

theorem step_text (h : s.phase ≠ .inText) (p : Nat) (inline : c ≠ '\n') (other : ¬ isBlank c) :
    s.step p c = ({ s with phase := .inText }, .indented s.lineStart s.width) := by
  unfold step
  split
  · contradiction
  · rw [if_neg inline, if_neg other]

theorem width?_eq_some_iff (h : s.phase ≠ .inText) :
    s.width? t p = some w ↔ t.HasText p ∧ s.width + t.blanksFrom p = w := by
  fun_induction blanksFrom t p generalizing s with
  | case1 p inside blank ih =>
    rw [width?, dif_pos inside, step_blank h p blank, hasText_of_blank inside blank]
    simp only
    rw [ih (s := { s with phase := .inBlank, width := s.width + 1 }) (by simp)]
    simp only [Nat.add_assoc, Nat.add_comm 1]
  | case2 p inside other =>
    rw [width?, dif_pos inside, hasText_of_other inside other]
    by_cases newline : t[p] = '\n'
    · rw [newline, step_newline h p]
      simp
    · rw [step_text h p newline other]
      simp [newline]
  | case3 p outside =>
    rw [width?, dif_neg outside]
    constructor
    · intro some_width
      contradiction
    · rintro ⟨text, _⟩
      exact absurd text.lt_size outside

theorem find?_of_outside (h : ¬ p < t.size) : find? t fits s p = none := by
  rw [find?, dif_neg h]

theorem find?_of_text (h : s.phase = .inText) :
    find? t fits s p = t.findFrom? fits (t.lineStop p) := by
  fun_induction lineStop t p with
  | case1 p inside newline =>
    rw [find?, dif_pos inside, newline]
    simp [step, h, findFrom?]
  | case2 p inside inline ih =>
    rw [find?, dif_pos inside, ← ih]
    simp [step, h, inline]
  | case3 p outside =>
    rw [find?_of_outside outside, findFrom?, find?_of_outside (Nat.lt_irrefl _)]

theorem find?_of_start (h : s.phase ≠ .inText) :
    find? t fits s p =
      if (s.width? t p).any fits then some s.lineStart else t.findFrom? fits (t.lineStop p) := by
  fun_induction blanksFrom t p generalizing s with
  | case1 p inside blank ih =>
    have rest := ih (s := { s with phase := .inBlank, width := s.width + 1 }) (by simp)
    rw [find?, width?, dif_pos inside, dif_pos inside, step_blank h p blank,
      lineStop_of_blank inside blank]
    exact rest
  | case2 p inside other =>
    rw [find?, width?, dif_pos inside, dif_pos inside]
    by_cases newline : t[p] = '\n'
    · rw [newline, step_newline h p, lineStop, dif_pos inside, if_pos newline]
      simp [findFrom?]
    · rw [step_text h p newline other, lineStop, dif_pos inside, if_neg newline]
      simp only [Option.any_some]
      rw [find?_of_text rfl]
  | case3 p outside =>
    rw [find?_of_outside outside, width?, dif_neg outside, lineStop, dif_neg outside, findFrom?,
      find?_of_outside (Nat.lt_irrefl _)]
    simp

end IndentScan

namespace Text

variable {t : Text} {fits : Nat → Bool} {p q r w : Nat}

theorem indent?_eq_some_iff : t.indent? p = some w ↔ t.HasText p ∧ t.blanksFrom p = w := by
  rw [indent?, IndentScan.width?_eq_some_iff (by simp)]
  simp

theorem indent?_eq_none_iff : t.indent? p = none ↔ ¬ t.HasText p := by
  simp [Option.eq_none_iff_forall_ne_some, indent?_eq_some_iff]

theorem any_indent?_iff (h : t.StartsLine p) : (t.indent? p).any fits ↔ t.FittingLine fits p := by
  simp only [Option.any_eq_true, indent?_eq_some_iff]
  constructor
  · rintro ⟨w, ⟨text, rfl⟩, fit⟩
    exact ⟨h, text, fit⟩
  · rintro ⟨_, text, fit⟩
    exact ⟨_, ⟨text, rfl⟩, fit⟩

theorem findFrom?_eq (t : Text) (fits : Nat → Bool) (p : Nat) :
    t.findFrom? fits p =
      if (t.indent? p).any fits then some p else t.findFrom? fits (t.lineStop p) :=
  IndentScan.find?_of_start (s := { lineStart := p }) (by simp)

theorem findFrom?_size (t : Text) (fits : Nat → Bool) : t.findFrom? fits t.size = none :=
  IndentScan.find?_of_outside (Nat.lt_irrefl _)

theorem lineStop_startsNext (h : t.lineStop p < t.size) :
    p < t.lineStop p ∧ t.StartsLine (t.lineStop p) := by
  constructor
  · by_cases inside : p < t.size
    · exact lt_lineStop inside
    · rw [lineStop, dif_neg inside] at h
      exact absurd h (Nat.lt_irrefl _)
  · exact (t.lineStop_starts_or_ends p).resolve_right (Nat.ne_of_lt h)

theorem FittingLine.lineStop_lt_size (h : t.FittingLine fits r) (lt : p < r) :
    t.lineStop p < t.size :=
  Nat.lt_of_le_of_lt (h.starts.lineStop_le lt) h.lt_size

theorem findFrom?_spec (fits : Nat → Bool) (h : t.StartsLine p) :
    match t.findFrom? fits p with
    | none => ∀ r, t.FittingLine fits r → ¬ p ≤ r
    | some q => t.FittingLine fits q ∧ p ≤ q ∧ ∀ r, t.FittingLine fits r → p ≤ r → q ≤ r := by
  induction left : t.size - p using Nat.strongRecOn generalizing p with
  | ind n ih =>
    rw [findFrom?_eq]
    by_cases fit : t.FittingLine fits p
    · rw [if_pos ((any_indent?_iff h).2 fit)]
      exact ⟨fit, Nat.le_refl p, fun _ _ le => le⟩
    · rw [if_neg (mt (any_indent?_iff h).1 fit)]
      -- so whatever fits starts no earlier than where the line at `p` stops
      have later (r : Nat) (hr : t.FittingLine fits r) (le : p ≤ r) : p < r :=
        Nat.lt_of_le_of_ne le (by rintro rfl; exact fit hr)
      by_cases more : t.lineStop p < t.size
      · obtain ⟨stop, starts⟩ := lineStop_startsNext more
        have rest := ih (t.size - t.lineStop p) (by omega) starts rfl
        split
        · next missing =>
          rw [missing] at rest
          exact fun r hr le => rest r hr (hr.starts.lineStop_le (later r hr le))
        · next q found =>
          rw [found] at rest
          obtain ⟨line, le, nearest⟩ := rest
          exact ⟨line, by omega, fun r hr le => nearest r hr (hr.starts.lineStop_le (later r hr le))⟩
      · have last : t.lineStop p = t.size := by
          have := lineStop_le_size t p
          omega
        rw [last, findFrom?_size]
        exact fun r hr le => more (hr.lineStop_lt_size (later r hr le))

theorem findBelow_spec (t : Text) (fits : Nat → Bool) (p : Nat) :
    match (t.lineAfter? p).bind (t.findFrom? fits) with
    | none => ∀ r, t.FittingLine fits r → ¬ p < r
    | some q => t.NearestBelow fits p q := by
  unfold lineAfter?
  by_cases more : t.lineStop p < t.size
  · obtain ⟨stop, starts⟩ := lineStop_startsNext more
    have found := findFrom?_spec fits starts
    rw [if_pos more, Option.bind_some]
    split
    · next missing =>
      rw [missing] at found
      exact fun r hr lt => found r hr (hr.starts.lineStop_le lt)
    · next q here =>
      rw [here] at found
      obtain ⟨line, le, nearest⟩ := found
      exact ⟨line, by omega, fun r hr lt => nearest r hr (hr.starts.lineStop_le lt)⟩
  · rw [if_neg more]
    exact fun r hr lt => more (hr.lineStop_lt_size lt)

theorem lineBefore?_eq_some (h : t.lineBefore? p = some q) :
    t.StartsLine q ∧ q < p ∧ ∀ r, t.StartsLine r → r < p → r ≤ q := by
  have lt := lineBefore?_lt h
  unfold lineBefore? at h
  split at h
  · contradiction
  · obtain rfl := Option.some.inj h
    exact ⟨lineStart_startsLine t _, lt, fun r hr lt => hr.le_lineStart (by omega)⟩

theorem findAbove?_spec (t : Text) (fits : Nat → Bool) (p : Nat) :
    match t.findAbove? fits p with
    | none => ∀ r, t.FittingLine fits r → ¬ r < p
    | some q => t.NearestAbove fits p q := by
  fun_induction findAbove? t fits p with
  | case1 p first =>
    have zero : p = 0 := by
      unfold lineBefore? at first
      split at first
      · assumption
      · contradiction
    intro r _ lt
    omega
  | case2 p q before fit =>
    obtain ⟨starts, above, last⟩ := lineBefore?_eq_some before
    exact ⟨(any_indent?_iff starts).1 fit, above, fun r hr lt => last r hr.starts lt⟩
  | case3 p q before unfit ih =>
    obtain ⟨starts, above, last⟩ := lineBefore?_eq_some before
    rw [any_indent?_iff starts] at unfit
    have earlier (r : Nat) (hr : t.FittingLine fits r) (lt : r < p) : r < q :=
      Nat.lt_of_le_of_ne (last r hr.starts lt) (by rintro rfl; exact unfit hr)
    split at ih
    · exact fun r hr lt => ih r hr (earlier r hr lt)
    · exact ⟨ih.line, Nat.lt_trans ih.above above, fun r hr lt => ih.nearest r hr (earlier r hr lt)⟩

theorem findAbove?_eq_some_iff : t.findAbove? fits p = some q ↔ t.NearestAbove fits p q := by
  have spec := findAbove?_spec t fits p
  constructor
  · intro found
    rw [found] at spec
    exact spec
  · intro h
    split at spec
    · exact absurd h.above (spec q h.line)
    · next q' found => rw [found, spec.unique h]

theorem findBelow_eq_some_iff :
    (t.lineAfter? p).bind (t.findFrom? fits) = some q ↔ t.NearestBelow fits p q := by
  have spec := findBelow_spec t fits p
  constructor
  · intro found
    rw [found] at spec
    exact spec
  · intro h
    split at spec
    · exact absurd h.below (spec q h.line)
    · next q' found => rw [found, spec.unique h]

/-- The nearest line above is the same for lines that have the same fitting lines above them. -/
theorem findAbove?_congr (h : ∀ r, t.FittingLine fits r → (r < p ↔ r < q)) :
    t.findAbove? fits p = t.findAbove? fits q := by
  refine Option.ext fun x => ?_
  rw [findAbove?_eq_some_iff, findAbove?_eq_some_iff]
  constructor
  · intro ⟨line, above, nearest⟩
    exact ⟨line, (h x line).1 above, fun r hr lt => nearest r hr ((h r hr).2 lt)⟩
  · intro ⟨line, above, nearest⟩
    exact ⟨line, (h x line).2 above, fun r hr lt => nearest r hr ((h r hr).1 lt)⟩

theorem findBelow_congr (h : ∀ r, t.FittingLine fits r → (p < r ↔ q < r)) :
    (t.lineAfter? p).bind (t.findFrom? fits) = (t.lineAfter? q).bind (t.findFrom? fits) := by
  refine Option.ext fun x => ?_
  rw [findBelow_eq_some_iff, findBelow_eq_some_iff]
  constructor
  · intro ⟨line, below, nearest⟩
    exact ⟨line, (h x line).1 below, fun r hr lt => nearest r hr ((h r hr).2 lt)⟩
  · intro ⟨line, below, nearest⟩
    exact ⟨line, (h x line).2 below, fun r hr lt => nearest r hr ((h r hr).1 lt)⟩

end Text

end ModalEditing
