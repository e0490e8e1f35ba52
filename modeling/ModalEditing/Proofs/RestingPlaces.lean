import ModalEditing.Proofs.LineSpans

/-! Where motions come to rest. From a character they lead to a character, with one exception: the
first character that is no blank, on a line which has none and is not ended by a newline. -/

namespace ModalEditing

def Text.BlankFrom (t : Text) (p : Nat) : Prop := ∀ x (h : x < t.size), p ≤ x → isBlank t[x]

instance (t : Text) (p : Nat) : Decidable (t.BlankFrom p) :=
  inferInstanceAs (Decidable (∀ x (h : x < t.size), p ≤ x → isBlank t[x]))

namespace Text

variable {t : Text} {l p q n : Nat}

theorem firstNonBlank_eq_size_iff (h : p ≤ t.size) :
    t.firstNonBlank p = t.size ↔ t.BlankFrom p := by
  constructor
  · intro ends x inside le
    obtain ⟨c, here, blank⟩ := isBlank_of_lt_firstNonBlank (t := t) le (ends ▸ inside)
    rw [Array.getElem?_eq_getElem inside, Option.some.injEq] at here
    rw [here]
    exact blank
  · intro blank
    fun_induction blanksFrom t p with
    | case1 p inside here ih =>
      rw [firstNonBlank_of_blank inside here]
      exact ih inside fun x hx le => blank x hx (Nat.le_of_succ_le le)
    | case2 p inside other => exact absurd (blank p inside (Nat.le_refl p)) other
    | case3 p outside =>
      rw [firstNonBlank, blanksFrom, dif_neg outside]
      omega

theorem BlankFrom.eq_lastLine (h : t.BlankFrom l) (line : l ∈ t.lines) : l = t.lastLine := by
  rcases Nat.lt_or_eq_of_le (le_lastLine line) with before | same
  · obtain ⟨starts, inside⟩ := mem_lines.1 t.lastLine_mem
    rcases starts.after_newline with zero | newline
    · omega
    · -- the newline before the last line would be a blank
      obtain ⟨place, here⟩ := Array.getElem?_eq_some_iff.1 newline
      have blank := h (t.lastLine - 1) place (by omega)
      rw [here, isBlank_newline] at blank
      contradiction
  · exact same

theorem stepMany_nextWordEnd_lt (h : p < t.size) (hn : 1 ≤ n) :
    stepMany t.nextWordEnd n p < t.size := by
  rw [stepMany_nextWordEnd (Nat.le_of_lt h) hn]
  have inside {x : Nat} (hx : x ∈ t.wordEndsAfter p) : x < t.size := (mem_offsetsWith.1 hx).2.1
  cases found : (t.wordEndsAfter p)[n - 1]? with
  | some e => exact inside (List.mem_of_getElem? found)
  | none =>
    cases last : (t.wordEndsAfter p).getLast? with
    | some e => exact inside (List.mem_of_getLast? last)
    | none => exact h

end Text

namespace Motion

open Text

variable {m : Motion} {t : Text} {cursor p q : Nat} {ctx : MotionContext}

def indentedLine? (m : Motion) (t : Text) (cursor : Nat) (ctx : MotionContext) : Option Nat :=
  match m with
  | firstNonBlank => some (t.lineStart cursor)
  | fileStart => some (t.lineNumbered (ctx.typed.getD 1))
  | fileEnd => some ((ctx.typed.map t.lineNumbered).getD t.lastLine)
  | _ => none

theorem target?_indentedLine {l : Nat} (h : m.indentedLine? t cursor ctx = some l) :
    m.target? t cursor ctx = some (t.firstNonBlank l) := by
  unfold indentedLine? at h
  unfold target?
  cases m with
  | firstNonBlank =>
    obtain rfl := Option.some.inj h
    simp only [lineStart_min]
  | fileStart =>
    obtain rfl := Option.some.inj h
    rfl
  | fileEnd =>
    obtain rfl := Option.some.inj h
    rfl
  | _ => contradiction

theorem indentedLine?_mem {l : Nat} (h : m.indentedLine? t cursor ctx = some l)
    (hc : cursor < t.size) : l ∈ t.lines := by
  unfold indentedLine? at h
  cases m with
  | firstNonBlank =>
    obtain rfl := Option.some.inj h
    have := t.lineStart_le cursor
    exact mem_lines.2 ⟨t.lineStart_startsLine cursor, by omega⟩
  | fileStart =>
    obtain rfl := Option.some.inj h
    exact t.lineNumbered_mem _
  | fileEnd =>
    obtain rfl := Option.some.inj h
    cases ctx.typed with
    | none => exact t.lastLine_mem
    | some n => exact t.lineNumbered_mem n
  | _ => contradiction

theorem lt_of_moved? {size : Nat} (h : moved? p q = some cursor) (hq : q < size) :
    cursor < size := by
  unfold moved? at h
  split at h
  · contradiction
  · exact Option.some.inj h ▸ hq

theorem target?_lt_size (hc : cursor < t.size) (h : m.target? t cursor ctx = some q)
    (other : m.indentedLine? t cursor ctx = none) : q < t.size := by
  have start := t.lineStart_le cursor
  have counted : 1 ≤ max ctx.count 1 := Nat.le_max_right _ _
  unfold target? at h
  simp only [Nat.min_eq_left (Nat.le_of_lt hc)] at h
  have placed {l : Nat} (hl : l < t.size) (c : Column) : t.placeOnLine l c < t.size :=
    Nat.lt_of_le_of_lt (t.placeOnLine_le l c) (lastOnLine_lt_size hl)
  cases m with
  | left => exact lt_of_moved? h (by omega)
  | right =>
    have last := lastOnLine_lt_size (t := t) (p := t.lineStart cursor) (by omega)
    simp only at h
    split at h
    · rw [← Option.some.inj h]
      omega
    · contradiction
  | up =>
    obtain ⟨l, hl, rfl⟩ := Option.map_eq_some_iff.1 h
    refine placed (lt_of_moved? hl ?_) _
    have := walkLines_up_le t (max ctx.count 1) (t.lineStart cursor)
    omega
  | down =>
    obtain ⟨l, hl, rfl⟩ := Option.map_eq_some_iff.1 h
    exact placed (lt_of_moved? hl (walkLines_down_lt_size _ (by omega))) _
  | lineStart =>
    rw [← Option.some.inj h]
    omega
  | lineEnd =>
    rw [← Option.some.inj h]
    refine lastOnLine_lt_size ?_
    cases away : lineAway? t.lineAfter? (max ctx.count 1 - 1) (t.lineStart cursor) with
    | none =>
      rw [Option.getD_none]
      omega
    | some l => exact lt_of_moved? away (walkLines_down_lt_size _ (by omega))
  | wordForward => exact lt_of_moved? h (by omega)
  | wordBackward =>
    refine lt_of_moved? h (Nat.lt_of_le_of_lt ?_ hc)
    exact stepMany_le _ (Nat.le_refl _) fun p hp => Nat.le_trans (t.prevWordStart_le p) hp
  | wordEnd => exact lt_of_moved? h (stepMany_nextWordEnd_lt hc counted)
  | firstNonBlank => contradiction
  | fileStart => contradiction
  | fileEnd => contradiction

/-- From a character a motion leads to a character, unless it leads to the first character that is
no blank and the line is the last one, with blanks only up to the end of the text. Then it leads
past the last character. -/
theorem rests_on_character (hc : cursor < t.size) (led : m.target? t cursor ctx = some q) :
    q ≤ t.size ∧
      (q = t.size ↔ m.indentedLine? t cursor ctx = some t.lastLine ∧ t.BlankFrom t.lastLine) := by
  refine ⟨target?_le_size led, ?_⟩
  cases line : m.indentedLine? t cursor ctx with
  | none =>
    have inside := target?_lt_size hc led line
    simp only [reduceCtorEq, false_and, iff_false]
    omega
  | some l =>
    have mem := indentedLine?_mem line hc
    have le := (mem_lines.1 mem).1.le_size
    rw [target?_indentedLine line, Option.some.injEq] at led
    rw [← led, firstNonBlank_eq_size_iff le, Option.some.injEq]
    constructor
    · intro blank
      obtain rfl := blank.eq_lastLine mem
      exact ⟨rfl, blank⟩
    · rintro ⟨rfl, blank⟩
      exact blank

theorem rests_on_character_newline :
    let t := Text.ofString "  \nx"
    3 < t.size ∧ fileStart.target? t 3 {} = some 2 ∧ 2 < t.size := by
  intro t
  have led : fileStart.target? t 3 {} = some 2 := by decide +kernel
  obtain ⟨le, past⟩ := rests_on_character (show 3 < t.size by decide) led
  refine ⟨by decide, led, Nat.lt_of_le_of_ne le fun ends => ?_⟩
  have other : ¬ t.BlankFrom t.lastLine := by decide +kernel
  exact other (past.1 ends).2

theorem leads_past_last_blank :
    let t := Text.ofString " "
    0 < t.size ∧ ∃ q, fileEnd.target? t 0 {} = some q ∧ ¬ q < t.size := by
  intro t
  exact ⟨by decide, 1, by decide +kernel, by decide⟩

end Motion

end ModalEditing
