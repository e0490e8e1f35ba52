import Mathlib.Data.List.Forall2
import Mathlib.Data.List.TakeWhile
import ModalEditing.Key.Notation

/-! Written keys read back. A key is written as one character or as a name in brackets, and a
reader takes just that much of the text, so that keys do not run into one another. What comes
back is the key itself unless its name leaves something out: SHIFT on a character and capitals
under CTRL are lost, and a chord on the closing bracket, or on a key without a character, has a
name that no reader knows. -/

namespace ModalEditing

theorem Except.bind_eq_ok_iff {ε α β : Type} {x : Except ε α} {f : α → Except ε β} {b : β} :
    (x >>= f) = .ok b ↔ ∃ a, x = .ok a ∧ f a = .ok b := by
  cases x with
  | error e => simp [bind, Except.bind]
  | ok a => simp [bind, Except.bind]

theorem toNat_lowerAscii (c : Char) :
    (lowerAscii c).toNat = if 'A' ≤ c ∧ c ≤ 'Z' then c.toNat + 32 else c.toNat := by
  unfold lowerAscii
  split
  · next capital =>
    have le : c.toNat ≤ 90 := capital.2
    rw [Char.ofNat, dif_pos (Or.inl (by omega))]
    rfl
  · rfl

theorem lowerAscii_eq_self_iff {c : Char} : lowerAscii c = c ↔ ¬ ('A' ≤ c ∧ c ≤ 'Z') := by
  constructor
  · intro same capital
    have moved := toNat_lowerAscii c
    rw [if_pos capital, same] at moved
    omega
  · intro other
    rw [lowerAscii, if_neg other]

theorem lowerAscii_eq_or (c : Char) : lowerAscii c = c ∨ 97 ≤ (lowerAscii c).toNat := by
  rw [lowerAscii_eq_self_iff, toNat_lowerAscii]
  by_cases capital : 'A' ≤ c ∧ c ≤ 'Z'
  · have ge : 65 ≤ c.toNat := capital.1
    rw [if_pos capital]
    omega
  · exact Or.inl capital

theorem lowerAscii_not_capital (c : Char) : ¬ ('A' ≤ lowerAscii c ∧ lowerAscii c ≤ 'Z') := by
  rcases lowerAscii_eq_or c with same | small
  · rw [same]
    exact lowerAscii_eq_self_iff.1 same
  · rintro ⟨-, le⟩
    have le : (lowerAscii c).toNat ≤ 90 := le
    omega

theorem Mods.write_eq {m : Mods} (h : m ≠ {}) :
    ∃ front letter, m.write = front ++ [letter, '-'] ∧ letter ≠ '-' ∧
      Mods.ofLetters? (front ++ [letter]) = some m := by
  refine ⟨m.write.dropLast.dropLast, m.write.dropLast.getLastD '-', ?_⟩
  obtain ⟨shift, ctrl, alt, command⟩ := m
  revert shift ctrl alt command
  decide

theorem Mods.write_unclosed (m : Mods) : '>' ∉ m.write := by
  obtain ⟨shift, ctrl, alt, command⟩ := m
  revert shift ctrl alt command
  decide

namespace Key

/-- What is written for the key leaves nothing out. -/
def Legible (k : Key) : Prop :=
  k.mods = {} ∨
    ∃ c, k.code = .char c ∧ k.mods ≠ {} ∧ k.mods.shift = false ∧ c ≠ '>' ∧
      (k.mods.ctrl → ¬ ('A' ≤ c ∧ c ≤ 'Z'))

def reread? (k : Key) : Option Key :=
  if k.mods = {} then some k
  else
    match k.code with
    | .char c =>
      if c = '>' then none
      else some (normalize { k with code := .char (if k.mods.ctrl then lowerAscii c else c) })
    | _ => none

variable {k k' : Key} {name rest : List Char}

theorem reread?_eq_self_iff : k.reread? = some k ↔ k.Legible := by
  obtain ⟨code, mods⟩ := k
  unfold reread? Legible
  by_cases bare : mods = {}
  · simp [bare]
  · simp only [bare, if_false, false_or, ne_eq, not_false_eq_true, true_and]
    cases code with
    | char c =>
      by_cases closing : c = '>'
      · simp [closing]
      · obtain ⟨shift, ctrl, alt, command⟩ := mods
        cases shift <;> cases ctrl <;> simp [closing, normalize, lowerAscii_eq_self_iff]
    | _ => simp

theorem ofChord?_concat (front : List Char) {x : Char} (y : Char) (h : x ≠ '-') :
    ofChord? (front ++ [x, y]) = none := by
  unfold ofChord?
  simp only [List.reverse_append, List.reverse_cons, List.reverse_nil, List.nil_append,
    List.cons_append]
  split
  · next eq => exact absurd (List.cons.inj (List.cons.inj eq).2).1 h
  · rfl

theorem ofName?_of_dash (h : '-' ∈ name) : ofName? name = ofChord? name := by
  have dashless : ∀ e ∈ named, '-' ∉ e.1.toList := by decide
  have unnamed : named.lookup (String.ofList (name.map lowerAscii)) = none := by
    rw [List.lookup_eq_none_iff]
    intro e he
    rw [bne_iff_ne]
    intro same
    refine dashless e he ?_
    rw [← same, String.toList_ofList]
    exact List.mem_map.2 ⟨'-', h, by decide⟩
  rw [ofName?, unnamed]

theorem ofName?_of_char {m : Mods} (h : m ≠ {}) (c : Char) :
    ofName? (m.write ++ [c]) =
      some (normalize { code := .char (if m.ctrl then lowerAscii c else c), mods := m }) := by
  obtain ⟨front, letter, written, _, read⟩ := Mods.write_eq h
  rw [ofName?_of_dash (by simp [written]), ofChord?, written]
  simp [read]

theorem ofName?_of_unchorded {m : Mods} (h : m ≠ {}) (front : List Char) {x : Char} (y : Char)
    (hx : x ≠ '-') : ofName? (m.write ++ (front ++ [x, y])) = none := by
  obtain ⟨_, _, written, _⟩ := Mods.write_eq h
  rw [ofName?_of_dash (by simp [written]), ← List.append_assoc, ofChord?_concat _ y hx]

theorem ofName?_write {m : Mods} (h : m ≠ {}) : ofName? m.write = none := by
  obtain ⟨front, letter, written, undashed, _⟩ := Mods.write_eq h
  rw [ofName?_of_dash (by simp [written]), written, ofChord?_concat front '-' undashed]

theorem bracketed?_closed (ne : name ≠ []) (unclosed : '>' ∉ name) :
    bracketed? (name ++ '>' :: rest) = some (name, rest) := by
  have inside : ∀ c ∈ name, (c != '>') = true := by
    intro c hc
    rw [bne_iff_ne]
    rintro rfl
    exact unclosed hc
  obtain ⟨c, cs, rfl⟩ := List.exists_cons_of_ne_nil ne
  rw [bracketed?, List.takeWhile_append_of_pos inside, List.dropWhile_append_of_pos inside]
  simp

theorem bracketed?_unclosed {cs : List Char} (h : bracketed? cs = some (name, rest)) :
    '>' ∉ name := by
  unfold bracketed? at h
  split at h
  · next taken _ =>
    obtain ⟨rfl, rfl⟩ := Prod.mk.inj (Option.some.inj h)
    intro closing
    rw [← taken] at closing
    simpa using List.mem_takeWhile_imp closing
  · contradiction

theorem readChars_inBrackets (ne : name ≠ []) (unclosed : '>' ∉ name) :
    readChars (inBrackets name ++ rest) =
      match ofName? name with
      | none => .error (.keyName ("<" ++ String.ofList name ++ ">"))
      | some k => do return k :: (← readChars rest) := by
  have closed : inBrackets name ++ rest = '<' :: (name ++ '>' :: rest) := by
    simp [inBrackets]
  rw [closed, readChars]
  split
  · next unread =>
    rw [if_pos rfl, bracketed?_closed ne unclosed] at unread
    contradiction
  · next read =>
    rw [if_pos rfl, bracketed?_closed ne unclosed] at read
    obtain ⟨rfl, rfl⟩ := Prod.mk.inj (Option.some.inj read)
    rfl

theorem readChars_named (name : List Char)
    (h : name ≠ [] ∧ '>' ∉ name ∧ ofName? name = some k) (rest : List Char) :
    readChars (inBrackets name ++ rest) = do return k :: (← readChars rest) := by
  rw [readChars_inBrackets h.1 h.2.1, h.2.2]

theorem readChars_unknown (ne : name ≠ []) (unclosed : '>' ∉ name) (unknown : ofName? name = none) :
    ∃ f, readChars (inBrackets name ++ rest) = .error f := by
  rw [readChars_inBrackets ne unclosed, unknown]
  exact ⟨_, rfl⟩

theorem readChars_plain {c : Char} (h : c ≠ '<') :
    readChars (c :: rest) = do return plain c :: (← readChars rest) := by
  rw [readChars]
  split
  · rfl
  · next read =>
    rw [if_neg h] at read
    contradiction

theorem writeChars_of_mods (h : k.mods ≠ {}) :
    k.writeChars = inBrackets (k.mods.write ++ k.name) := by
  have held : k.mods.isEmpty = false := by
    rwa [Bool.eq_false_iff, ne_eq, Mods.isEmpty_iff]
  unfold writeChars
  rw [held]
  split <;> first | contradiction | rfl

theorem readChars_writeChars_bare (h : k.mods = {}) (rest : List Char) :
    readChars (k.writeChars ++ rest) = do return k :: (← readChars rest) := by
  obtain ⟨code, mods⟩ := k
  obtain rfl : mods = {} := h
  cases code with
  | char c =>
    by_cases opening : c = '<'
    · subst opening
      exact readChars_named ['l', 't'] (by decide) rest
    · by_cases blank : c = ' '
      · subst blank
        exact readChars_named ['S', 'p', 'a', 'c', 'e'] (by decide) rest
      · have written : writeChars { code := .char c } = [c] := by
          simp [writeChars, Mods.isEmpty]
        rw [written]
        exact readChars_plain opening
  | esc => exact readChars_named ['E', 's', 'c'] (by decide) rest
  | enter => exact readChars_named ['C', 'R'] (by decide) rest
  | backspace => exact readChars_named ['B', 'S'] (by decide) rest
  | tab => exact readChars_named ['T', 'a', 'b'] (by decide) rest
  | plug => exact readChars_named ['P', 'l', 'u', 'g'] (by decide) rest

/-- Whatever comes after it, what is written for a key is read apart from that. -/
theorem readChars_writeChars (h : k.reread? = some k') (rest : List Char) :
    readChars (k.writeChars ++ rest) = do return k' :: (← readChars rest) := by
  obtain ⟨code, mods⟩ := k
  unfold reread? at h
  by_cases bare : mods = {}
  · rw [if_pos bare, Option.some.injEq] at h
    rw [← h]
    exact readChars_writeChars_bare bare rest
  · rw [if_neg bare] at h
    cases code with
    | char c =>
      by_cases closing : c = '>'
      · simp [closing] at h
      · simp only [closing, if_false, Option.some.injEq] at h
        have unclosed : '>' ∉ mods.write ++ [c] := by
          simp [mods.write_unclosed, Ne.symm closing]
        rw [writeChars_of_mods bare, name, readChars_inBrackets (by simp) unclosed,
          ofName?_of_char bare, h]
    | _ => contradiction

theorem name_eq (h : ∀ c, k.code ≠ .char c) :
    '>' ∉ k.name ∧ ∃ front x y, k.name = front ++ [x, y] ∧ x ≠ '-' := by
  obtain ⟨code, mods⟩ := k
  cases code with
  | char c => exact absurd rfl (h c)
  | esc => exact ⟨by simp [name], ['E'], 's', 'c', rfl, by decide⟩
  | enter => exact ⟨by simp [name], [], 'C', 'R', rfl, by decide⟩
  | backspace => exact ⟨by simp [name], [], 'B', 'S', rfl, by decide⟩
  | tab => exact ⟨by simp [name], ['T'], 'a', 'b', rfl, by decide⟩
  | plug => exact ⟨by simp [name], ['P', 'l'], 'u', 'g', rfl, by decide⟩

theorem readChars_writeChars_error (h : k.reread? = none) (rest : List Char) :
    ∃ f, readChars (k.writeChars ++ rest) = .error f := by
  have chord : k.mods ≠ {} := by
    intro bare
    simp [reread?, bare] at h
  rw [writeChars_of_mods chord]
  by_cases printed : ∃ c, k.code = .char c
  · obtain ⟨c, code⟩ := printed
    obtain rfl : c = '>' := by
      by_contra other
      simp [reread?, chord, code, other] at h
    -- the bracket that is the character closes the name, and the last one is left over
    have early : inBrackets (k.mods.write ++ k.name) ++ rest =
        inBrackets k.mods.write ++ '>' :: rest := by simp [inBrackets, name, code]
    obtain ⟨_, _, written, _⟩ := Mods.write_eq chord
    rw [early]
    exact readChars_unknown (by simp [written]) k.mods.write_unclosed (ofName?_write chord)
  · obtain ⟨unclosed, front, x, y, named, undashed⟩ := name_eq (not_exists.1 printed)
    refine readChars_unknown ?_ ?_ ?_
    · simp [named]
    · simp [k.mods.write_unclosed, unclosed]
    · rw [named]
      exact ofName?_of_unchorded chord front y undashed

theorem readChars_flatMap_eq_ok_iff {ks ks' : List Key} :
    readChars (ks.flatMap writeChars) = .ok ks' ↔
      List.Forall₂ (fun k k' => k.reread? = some k') ks ks' := by
  induction ks generalizing ks' with
  | nil =>
    rw [List.flatMap_nil, readChars, List.forall₂_nil_left_iff, Except.ok.injEq, eq_comm]
  | cons k ks ih =>
    rw [List.flatMap_cons, List.forall₂_cons_left_iff]
    cases h : k.reread? with
    | none =>
      obtain ⟨f, failed⟩ := readChars_writeChars_error h (ks.flatMap writeChars)
      simp [failed]
    | some k' =>
      rw [readChars_writeChars h, Except.bind_eq_ok_iff]
      constructor
      · rintro ⟨tail, read, same⟩
        exact ⟨k', tail, rfl, ih.1 read, (Except.ok.inj same).symm⟩
      · rintro ⟨_, tail, same, kept, rfl⟩
        obtain rfl := Option.some.inj same
        exact ⟨tail, ih.2 kept, rfl⟩

theorem forall_of_readChars {P : Key → Prop} (char : ∀ c, P (plain c))
    (name : ∀ name k, '>' ∉ name → ofName? name = some k → P k) {cs : List Char} {ks : List Key}
    (h : readChars cs = .ok ks) : ∀ k ∈ ks, P k := by
  fun_induction readChars cs generalizing ks with
  | case1 =>
    obtain rfl := Except.ok.inj h
    simp
  | case2 c cs _ ih =>
    obtain ⟨tail, read, same⟩ := Except.bind_eq_ok_iff.1 h
    obtain rfl := Except.ok.inj same
    exact List.forall_mem_cons.2 ⟨char c, ih read⟩
  | case3 => contradiction
  | case4 c cs n rest closed k known ih =>
    obtain ⟨tail, read, same⟩ := Except.bind_eq_ok_iff.1 h
    obtain rfl := Except.ok.inj same
    split at closed
    · exact List.forall_mem_cons.2 ⟨name n k (bracketed?_unclosed closed) known, ih read⟩
    · contradiction

theorem legible_of_ofName? (unclosed : '>' ∉ name) (h : ofName? name = some k) : k.Legible := by
  have bare : ∀ e ∈ named, e.2.mods = {} := by decide
  unfold ofName? at h
  split at h
  · next k' found =>
    obtain rfl := Option.some.inj h
    obtain ⟨l, r, split, _⟩ := List.lookup_eq_some_iff.1 found
    exact Or.inl (bare (String.ofList (name.map lowerAscii), k') (by simp [split]))
  · unfold ofChord? at h
    split at h
    · next c chord written =>
      obtain ⟨mods, _, hk⟩ := Option.bind_eq_some_iff.1 h
      -- a closing bracket would have ended the name
      have other : c ≠ '>' := by
        rintro rfl
        exact unclosed (List.mem_reverse.1 (by simp [written]))
      rw [← Option.some.inj hk]
      by_cases held : ({ mods with shift := false } : Mods) = {}
      · exact Or.inl held
      · refine Or.inr ⟨_, rfl, held, rfl, ?_, ?_⟩
        · split
          · rcases lowerAscii_eq_or c with same | small
            · rwa [same]
            · intro closing
              rw [closing] at small
              contradiction
          · exact other
        · intro ctrl
          rw [if_pos (show mods.ctrl from ctrl)]
          exact lowerAscii_not_capital c
    · contradiction

/-- What is written for keys reads back as the same keys exactly if it leaves nothing out, as it
does for no keys that have been read. -/
theorem readAll_writeAll_iff (ks : List Key) :
    (readAll (writeAll ks) = .ok ks ↔ ∀ k ∈ ks, k.Legible) ∧
      ∀ s, readAll s = .ok ks → readAll (writeAll ks) = .ok ks := by
  have same : readAll (writeAll ks) = .ok ks ↔ ∀ k ∈ ks, k.Legible := by
    rw [readAll, writeAll, String.toList_ofList, readChars_flatMap_eq_ok_iff, List.forall₂_same]
    exact forall₂_congr fun k _ => reread?_eq_self_iff
  refine ⟨same, ?_⟩
  intro s read
  refine same.2 (forall_of_readChars ?_ ?_ read)
  · exact fun c => Or.inl rfl
  · exact fun name k => legible_of_ofName?

theorem readAll_writeAll_iff_chords :
    let ks := [Key.ctrl 'v', { code := .char '<', mods := { alt := true } }, Key.plain '<']
    readAll "<C-V><A-<><lt>" = .ok ks ∧ readAll (writeAll ks) = .ok ks := by
  intro ks
  have read : readAll "<C-V><A-<><lt>" = .ok ks := by decide +kernel
  exact ⟨read, (readAll_writeAll_iff ks).2 _ read⟩

end Key

end ModalEditing
