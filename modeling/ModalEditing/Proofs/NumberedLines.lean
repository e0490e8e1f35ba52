import ModalEditing.Proofs.IndentedLines
import ModalEditing.Proofs.WordBoundaries

/-! Lines by number. The lines of a text are listed by where they start, and a walk over lines
goes up or down the list, as far as it reaches. -/

namespace ModalEditing

section

variable {B : Nat → Prop} [DecidablePred B] {a b i p : Nat}

theorem offsetsWith_pairwise (a b : Nat) : (offsetsWith B a b).Pairwise (· < ·) :=
  List.Pairwise.filter _ List.pairwise_lt_range'

theorem length_offsetsWith (h : (offsetsWith B a b)[i]? = some p) :
    (offsetsWith B a p).length = i := by
  obtain ⟨above, below, here⟩ := mem_offsetsWith.1 (List.mem_of_getElem? h)
  have split := offsetsWith_split above below here
  have once : (offsetsWith B a b).Nodup := (offsetsWith_pairwise a b).imp Nat.ne_of_lt
  have place : (offsetsWith B a b)[(offsetsWith B a p).length]? = some p := by
    rw [split, List.getElem?_append_right (Nat.le_refl _), Nat.sub_self]
    rfl
  exact (List.getElem?_inj (List.getElem?_eq_some_iff.1 place).1 once).1 (place.trans h.symm)

end

namespace Text

variable {t : Text} {i l p q w n : Nat}

instance (t : Text) (p : Nat) : Decidable (t.StartsLine p) :=
  decidable_of_iff (p ≤ t.size ∧ (p = 0 ∨ t[p - 1]? = some '\n'))
    ⟨fun ⟨inside, after⟩ => ⟨inside, after⟩, fun h => ⟨h.le_size, h.after_newline⟩⟩

/-- Where the lines start, in order. A text without characters is one line, and a newline at the
very end opens no further one. -/
def lines (t : Text) : List Nat := offsetsWith t.StartsLine 0 (max t.size 1)

def linesAbove (t : Text) (p : Nat) : Nat := (offsetsWith t.StartsLine 0 (t.lineStart p)).length

def linesBelow (t : Text) (p : Nat) : Nat := t.lines.length - (t.linesAbove p + 1)

theorem mem_lines : p ∈ t.lines ↔ t.StartsLine p ∧ p < max t.size 1 := by
  rw [lines, mem_offsetsWith]
  constructor
  · rintro ⟨_, inside, starts⟩
    exact ⟨starts, inside⟩
  · rintro ⟨starts, inside⟩
    exact ⟨Nat.zero_le p, inside, starts⟩

theorem startsLine_of_getElem? (h : t.lines[i]? = some p) : t.StartsLine p :=
  (mem_lines.1 (List.mem_of_getElem? h)).1

theorem lines_length_pos (t : Text) : 0 < t.lines.length :=
  List.length_pos_of_mem (mem_lines.2 ⟨t.startsLine_zero, by omega⟩)

theorem lines_split (h : t.StartsLine p) (inside : p < max t.size 1) :
    t.lines =
      offsetsWith t.StartsLine 0 p ++ p :: offsetsWith t.StartsLine (p + 1) (max t.size 1) :=
  offsetsWith_split (Nat.zero_le p) inside h

theorem lineBefore?_eq_getLast? (t : Text) (p : Nat) :
    t.lineBefore? p = (offsetsWith t.StartsLine 0 p).getLast? := by
  cases before : t.lineBefore? p with
  | none =>
    have first : p = 0 := by
      unfold lineBefore? at before
      split at before
      · assumption
      · contradiction
    rw [first]
    rfl
  | some q =>
    obtain ⟨starts, above, last⟩ := lineBefore?_eq_some before
    have nearest : offsetsWith t.StartsLine (q + 1) p = [] :=
      offsetsWith_eq_nil fun x past below hx => absurd (last x hx below) (by omega)
    rw [offsetsWith_split (Nat.zero_le q) above starts, nearest, List.getLast?_concat]

theorem lineAfter?_eq_head? (t : Text) (p : Nat) :
    t.lineAfter? p = (offsetsWith t.StartsLine (p + 1) (max t.size 1)).head? := by
  unfold lineAfter?
  split
  · next more =>
    obtain ⟨past, starts⟩ := lineStop_startsNext more
    have nearest : offsetsWith t.StartsLine (p + 1) (t.lineStop p) = [] :=
      offsetsWith_eq_nil fun x above below hx => absurd (hx.lineStop_le above) (by omega)
    rw [offsetsWith_split past (by omega) starts, nearest]
    rfl
  · next last =>
    have none_after : offsetsWith t.StartsLine (p + 1) (max t.size 1) = [] := by
      refine offsetsWith_eq_nil fun x above below hx => last ?_
      have := hx.lineStop_le above
      omega
    rw [none_after]
    rfl

theorem lineAfter?_of_getElem? (h : t.lines[i]? = some p) : t.lineAfter? p = t.lines[i + 1]? := by
  obtain ⟨starts, inside⟩ := mem_lines.1 (List.mem_of_getElem? h)
  have place := length_offsetsWith h
  rw [lineAfter?_eq_head?, lines_split starts inside,
    List.getElem?_append_right (by omega), place, Nat.add_sub_cancel_left, List.getElem?_cons_succ,
    List.head?_eq_getElem?]

theorem lineBefore?_zero (t : Text) : t.lineBefore? 0 = none := if_pos rfl

theorem lineBefore?_of_getElem? (h : t.lines[i + 1]? = some p) : t.lineBefore? p = t.lines[i]? := by
  obtain ⟨starts, inside⟩ := mem_lines.1 (List.mem_of_getElem? h)
  have place := length_offsetsWith h
  rw [lineBefore?_eq_getLast?, lines_split starts inside, List.getLast?_eq_getElem?, place,
    List.getElem?_append_left (by omega), Nat.add_sub_cancel]

theorem getElem?_lines_zero (t : Text) : t.lines[0]? = some 0 := by
  rw [lines_split t.startsLine_zero (by omega)]
  rfl

/-- The line around an offset has the number of the lines above it; only the place after a newline
at the very end is in no line. -/
theorem getElem?_linesAbove (h : t.lineStart p < max t.size 1) :
    t.lines[t.linesAbove p]? = some (t.lineStart p) := by
  rw [lines_split (t.lineStart_startsLine p) h, linesAbove,
    List.getElem?_append_right (Nat.le_refl _), Nat.sub_self]
  rfl

theorem linesAbove_eq (h : t.lines[i]? = some (t.lineStart p)) : t.linesAbove p = i :=
  length_offsetsWith h

theorem linesAbove_eq_length (h : max t.size 1 ≤ t.lineStart p) :
    t.linesAbove p = t.lines.length := by
  have ends : t.lineStart p = max t.size 1 := by
    have := t.lineStart_le_size p
    omega
  rw [linesAbove, ends, lines]

theorem lines_lt {j : Nat} (hp : t.lines[i]? = some p) (hq : t.lines[j]? = some q) (lt : i < j) :
    p < q := by
  obtain ⟨inside, rfl⟩ := List.getElem?_eq_some_iff.1 hp
  obtain ⟨inside', rfl⟩ := List.getElem?_eq_some_iff.1 hq
  exact List.pairwise_iff_getElem.1 (offsetsWith_pairwise _ _) i j inside inside' lt

theorem linesAbove_lt (h : t.lineStart p < t.lineStart q) : t.linesAbove p < t.linesAbove q := by
  rw [linesAbove, linesAbove, offsetsWith_split (Nat.zero_le _) h (t.lineStart_startsLine p),
    List.length_append, List.length_cons]
  omega

theorem lineStart_of_linesAbove (h : t.linesAbove p = t.linesAbove q) :
    t.lineStart p = t.lineStart q := by
  rcases Nat.lt_trichotomy (t.lineStart p) (t.lineStart q) with before | same | after
  · have := linesAbove_lt before
    omega
  · exact same
  · have := linesAbove_lt after
    omega

theorem lineBefore?_lineStart (h : 0 < t.linesAbove p) :
    t.lineBefore? (t.lineStart p) = t.lines[t.linesAbove p - 1]? := by
  rcases Nat.lt_or_ge (t.lineStart p) (max t.size 1) with inside | outside
  · have here := getElem?_linesAbove inside
    rw [← Nat.sub_add_cancel h] at here
    exact lineBefore?_of_getElem? here
  · have ends : t.lineStart p = max t.size 1 := by
      have := t.lineStart_le_size p
      omega
    rw [lineBefore?_eq_getLast?, linesAbove_eq_length outside, ends, ← lines,
      List.getLast?_eq_getElem?]

theorem walkLines_down_eq (h : t.lines[i]? = some p) (n : Nat) :
    t.lines[min (i + n) (t.lines.length - 1)]? = some (walkLines t.lineAfter? n p) := by
  have inside := (List.getElem?_eq_some_iff.1 h).1
  induction n generalizing i p with
  | zero =>
    rw [Nat.add_zero, Nat.min_eq_left (by omega)]
    exact h
  | succ n ih =>
    rw [walkLines, lineAfter?_of_getElem? h]
    cases next : t.lines[i + 1]? with
    | none =>
      have last := List.getElem?_eq_none_iff.1 next
      rw [show min (i + (n + 1)) (t.lines.length - 1) = i by omega]
      exact h
    | some q =>
      have inside' := (List.getElem?_eq_some_iff.1 next).1
      rw [show i + (n + 1) = i + 1 + n by omega]
      exact ih next inside'

theorem walkLines_up_eq (h : t.lines[i]? = some p) (n : Nat) :
    t.lines[i - n]? = some (walkLines t.lineBefore? n p) := by
  induction n generalizing i p with
  | zero => exact h
  | succ n ih =>
    rw [walkLines]
    cases i with
    | zero =>
      rw [getElem?_lines_zero, Option.some.injEq] at h
      rw [← h, lineBefore?_zero, Nat.zero_sub]
      exact t.getElem?_lines_zero
    | succ i =>
      have inside := (List.getElem?_eq_some_iff.1 h).1
      have before : t.lines[i]? = some t.lines[i] := List.getElem?_eq_getElem (by omega)
      rw [lineBefore?_of_getElem? h, Nat.add_sub_add_right, before]
      exact ih before

theorem lineNumbered_eq (t : Text) (n : Nat) :
    t.lines[min (n - 1) (t.lines.length - 1)]? = some (t.lineNumbered n) := by
  have walk := walkLines_down_eq t.getElem?_lines_zero (n - 1)
  rw [Nat.zero_add] at walk
  exact walk

theorem lineNumbered_mem (t : Text) (n : Nat) : t.lineNumbered n ∈ t.lines :=
  List.mem_of_getElem? (t.lineNumbered_eq n)

theorem lastLine_eq (t : Text) : t.lastLine = t.lineStart (t.size - 1) := by
  unfold lastLine
  simp only
  split
  · rfl
  · next inner =>
    have le := t.lineStart_le_size t.size
    have mono := t.lineStart_mono (Nat.sub_le t.size 1)
    refine Nat.le_antisymm ((t.lineStart_startsLine t.size).le_lineStart ?_) mono
    omega

theorem lastLine_mem (t : Text) : t.lastLine ∈ t.lines := by
  rw [lastLine_eq, mem_lines]
  have := t.lineStart_le (t.size - 1)
  exact ⟨t.lineStart_startsLine _, by omega⟩

theorem le_lastLine (h : p ∈ t.lines) : p ≤ t.lastLine := by
  obtain ⟨starts, inside⟩ := mem_lines.1 h
  rw [lastLine_eq]
  exact starts.le_lineStart (by omega)

theorem walkLines_of_none {next? : Nat → Option Nat} (h : next? p = none) (n : Nat) :
    walkLines next? n p = p := by
  cases n with
  | zero => rfl
  | succ n => rw [walkLines, h]

end Text

namespace Motion

open Text

variable {t : Text} {n : Nat}

theorem lineAway?_of_eq {next? : Nat → Option Nat} {p : Nat} (h : walkLines next? n p = p) :
    lineAway? next? n p = none := if_pos h

theorem lineAway?_of_ne {next? : Nat → Option Nat} {p : Nat} (h : walkLines next? n p ≠ p) :
    lineAway? next? n p = some (walkLines next? n p) := if_neg h

theorem lineAway?_down (t : Text) (p : Nat) (hn : 1 ≤ n) :
    t.linesBelow p = 0 ∧ lineAway? t.lineAfter? n (t.lineStart p) = none ∨
      ∃ q, 0 < t.linesBelow p ∧ t.lines[t.linesAbove p + min n (t.linesBelow p)]? = some q ∧
        lineAway? t.lineAfter? n (t.lineStart p) = some q ∧ t.lineStart p < q := by
  unfold linesBelow
  rcases Nat.lt_or_ge (t.lineStart p) (max t.size 1) with inside | outside
  · have here := getElem?_linesAbove inside
    have walk := walkLines_down_eq here n
    have place := (List.getElem?_eq_some_iff.1 here).1
    by_cases last : t.lines.length = t.linesAbove p + 1
    · rw [show min (t.linesAbove p + n) (t.lines.length - 1) = t.linesAbove p by omega] at walk
      refine Or.inl ⟨by omega, lineAway?_of_eq ?_⟩
      exact Option.some.inj (walk.symm.trans here)
    · have further := lines_lt here walk (by omega)
      refine Or.inr ⟨_, by omega, ?_, lineAway?_of_ne (Nat.ne_of_gt further), further⟩
      rw [← walk]
      congr 1
      omega
  · have none_after : t.lineAfter? (t.lineStart p) = none := by
      rw [lineAfter?_eq_head?, offsetsWith_eq_nil]
      · rfl
      · intro x above below
        omega
    have length := linesAbove_eq_length outside
    exact Or.inl ⟨by omega, lineAway?_of_eq (walkLines_of_none none_after n)⟩

theorem lineAway?_up (t : Text) (p : Nat) (hn : 1 ≤ n) :
    t.linesAbove p = 0 ∧ lineAway? t.lineBefore? n (t.lineStart p) = none ∨
      ∃ q, 0 < t.linesAbove p ∧ t.lines[t.linesAbove p - min n (t.linesAbove p)]? = some q ∧
        lineAway? t.lineBefore? n (t.lineStart p) = some q ∧ q < t.lineStart p := by
  obtain ⟨n, rfl⟩ := Nat.exists_eq_add_of_le' hn
  rcases Nat.eq_zero_or_pos (t.linesAbove p) with first | later
  · have nothing := List.eq_nil_of_length_eq_zero first
    have none_before : t.lineBefore? (t.lineStart p) = none := by
      rw [lineBefore?_eq_getLast?, nothing]
      rfl
    exact Or.inl ⟨first, lineAway?_of_eq (walkLines_of_none none_before _)⟩
  · obtain ⟨q, before⟩ : ∃ q, t.lineBefore? (t.lineStart p) = some q := by
      rw [lineBefore?_eq_getLast?]
      exact Option.isSome_iff_exists.1 (List.getLast?_isSome.2 (List.ne_nil_of_length_pos later))
    have here : t.lines[t.linesAbove p - 1]? = some q := lineBefore?_lineStart later ▸ before
    have walk := walkLines_up_eq here n
    have walked :
        walkLines t.lineBefore? (n + 1) (t.lineStart p) = walkLines t.lineBefore? n q := by
      rw [walkLines, before]
    have lt : walkLines t.lineBefore? (n + 1) (t.lineStart p) < t.lineStart p := by
      have := walkLines_up_le t n q
      have := lineBefore?_lt before
      omega
    refine Or.inr ⟨_, later, ?_, lineAway?_of_ne (Nat.ne_of_lt lt), lt⟩
    rw [walked, ← walk]
    congr 1
    omega

end Motion

end ModalEditing
