import ModalEditing.Keymap.Standard
import ModalEditing.Proofs.KeymapLookup
import ModalEditing.Proofs.MappingOwners

/-! Look-ups in a keymap that a registry makes, told by the registered mappings in their order
and without the index. A look-up waits exactly if a mapping that applies goes on from the keys,
and answers otherwise with the longest mapping that starts them, the newest of equally long ones. -/

namespace ModalEditing

namespace Keymap

variable {km : Keymap} {modes : ModeSet} {ks : List Key} {handlersOnly : Bool}

def applying (km : Keymap) (modes : ModeSet) (handlersOnly : Bool) : List Mapping :=
  km.mappings.filter fun m => m.applies modes handlersOnly

theorem mem_applying {m : Mapping} :
    m ∈ km.applying modes handlersOnly ↔ m ∈ km.mappings ∧ m.applies modes handlersOnly :=
  List.mem_filter

theorem goesOn_iff : km.GoesOn modes ks handlersOnly ↔
    ∃ m ∈ km.applying modes handlersOnly, ks <+: m.keys ∧ m.keys ≠ ks := by
  unfold GoesOn
  constructor
  · rintro ⟨m, hm, ha, start, longer⟩
    refine ⟨m, mem_applying.2 ⟨hm, ha⟩, start, ?_⟩
    rintro rfl
    exact Nat.lt_irrefl _ longer
  · rintro ⟨m, hm, start, ne⟩
    obtain ⟨mem, ha⟩ := mem_applying.1 hm
    refine ⟨m, mem, ha, start, ?_⟩
    by_contra le
    exact ne (start.eq_of_length_le (Nat.le_of_not_lt le)).symm

theorem isSome_exactOf_iff :
    (exactOf ks (km.candidates modes ks handlersOnly)).isSome ↔
      ∃ m ∈ km.applying modes handlersOnly, m.keys = ks := by
  simp only [exactOf, List.find?_isSome, List.mem_reverse, Prod.exists, beq_iff_eq, mem_candidates]
  constructor
  · rintro ⟨m, i, ⟨hi, ha, _⟩, same⟩
    exact ⟨m, mem_applying.2 ⟨List.mem_of_getElem? hi, ha⟩, same⟩
  · rintro ⟨m, hm, rfl⟩
    obtain ⟨mem, ha⟩ := mem_applying.1 hm
    obtain ⟨i, hi⟩ := List.mem_iff_getElem?.1 mem
    exact ⟨m, i, ⟨hi, ha, m.head?_keys⟩, rfl⟩

theorem lookup_of_goesOn (hk : ks ≠ []) (h : km.GoesOn modes ks handlersOnly) :
    km.lookup modes ks handlersOnly = .ambiguous ∧
        (∃ m ∈ km.applying modes handlersOnly, m.keys = ks) ∨
      km.lookup modes ks handlersOnly = .pending ∧
        ¬ ∃ m ∈ km.applying modes handlersOnly, m.keys = ks := by
  rw [← isSome_exactOf_iff]
  rw [← any_longer_iff hk] at h
  unfold lookup
  simp only [h]
  cases exactOf ks (km.candidates modes ks handlersOnly) with
  | some c => exact Or.inl ⟨rfl, rfl⟩
  | none => exact Or.inr ⟨rfl, Bool.false_ne_true⟩

theorem lookup_of_not_goesOn (h : ¬ km.GoesOn modes ks handlersOnly) :
    km.lookup modes ks handlersOnly = km.longest modes ks handlersOnly := by
  cases ks with
  | nil => rfl
  | cons k ks => exact lookup_eq_longest (List.cons_ne_nil k ks) h

theorem lookup_nil (km : Keymap) (modes : ModeSet) (handlersOnly : Bool) :
    km.lookup modes [] handlersOnly = .missing := rfl

theorem not_equal_nil : ¬ ∃ m ∈ km.applying modes handlersOnly, m.keys = [] :=
  fun ⟨m, _, none_left⟩ => m.keys_ne_nil none_left

theorem not_waits_of_not_goesOn (h : ¬ km.GoesOn modes ks handlersOnly) :
    (km.lookup modes ks handlersOnly).waits = false := by
  rw [lookup_of_not_goesOn h]
  exact km.waits_longest modes ks handlersOnly

theorem lookup_eq_ambiguous_iff :
    km.lookup modes ks handlersOnly = .ambiguous ↔
      (∃ m ∈ km.applying modes handlersOnly, m.keys = ks) ∧ km.GoesOn modes ks handlersOnly := by
  by_cases hk : ks = []
  · subst hk
    simp [lookup_nil, not_equal_nil]
  by_cases longer : km.GoesOn modes ks handlersOnly
  · rcases lookup_of_goesOn hk longer with ⟨answer, equal⟩ | ⟨answer, unequal⟩
    · simp only [answer, equal, longer, and_self]
    · simp [answer, unequal]
  · have settled := not_waits_of_not_goesOn longer
    simp only [longer, and_false, iff_false]
    intro answer
    rw [answer] at settled
    contradiction

theorem lookup_eq_pending_iff :
    km.lookup modes ks handlersOnly = .pending ↔
      ks ≠ [] ∧ km.GoesOn modes ks handlersOnly ∧
        ¬ ∃ m ∈ km.applying modes handlersOnly, m.keys = ks := by
  by_cases hk : ks = []
  · subst hk
    simp [lookup_nil]
  rw [and_iff_right hk]
  by_cases longer : km.GoesOn modes ks handlersOnly
  · rcases lookup_of_goesOn hk longer with ⟨answer, equal⟩ | ⟨answer, unequal⟩
    · simp [answer, equal]
    · simp [answer, unequal, longer]
  · have settled := not_waits_of_not_goesOn longer
    simp only [longer, false_and, iff_false]
    intro answer
    rw [answer] at settled
    contradiction

/-- A look-up that does not wait finds what one finds that never does. -/
theorem lookup_eq_longest_of_not_waits (h : (km.lookup modes ks handlersOnly).waits = false) :
    km.lookup modes ks handlersOnly = km.longest modes ks handlersOnly := by
  by_cases hk : ks = []
  · subst hk
    rfl
  · refine lookup_of_not_goesOn ?_
    rw [← lookup_waits_iff hk, Bool.not_eq_true]
    exact h

theorem longest_eq_missing_iff_applying :
    km.longest modes ks handlersOnly = .missing ↔
      ∀ m ∈ km.applying modes handlersOnly, ¬ m.keys <+: ks := by
  simp only [longest_eq_missing_iff, mem_applying, and_imp]

theorem longest_of_exact (h : ∃ m ∈ km.applying modes handlersOnly, m.keys = ks) :
    ∃ m i, km.longest modes ks handlersOnly = .found m i ks.length ∧ m.keys = ks := by
  obtain ⟨⟨m, i⟩, chosen⟩ := Option.isSome_iff_exists.1 (isSome_exactOf_iff.2 h)
  have keys : m.keys = ks := keys_of_exactOf chosen
  exact ⟨m, i, longest_eq_found_iff.2 ⟨longest_of_exactOf chosen, by rw [keys]⟩, keys⟩

end Keymap

namespace Registry

/-- What a look-up in the keymap of a registry answers, told by the registered mappings `A` that
apply. A look-up of one key or more waits exactly if one of them goes on from its keys. One that
does not wait finds the longest of them that starts its keys, and the newest of equally long
ones. A look-up that never waits finds this one in any case. -/
theorem keymap_lookup (r : Registry) (modes : ModeSet) (ks : List Key) (handlersOnly : Bool) :
    let A := r.keymap.applying modes handlersOnly
    let equal := ∃ m ∈ A, m.keys = ks
    let longer := ∃ m ∈ A, ks <+: m.keys ∧ m.keys ≠ ks
    let answer := r.keymap.lookup modes ks handlersOnly
    let settled := r.keymap.longest modes ks handlersOnly
    (A = r.mappings.filter fun m => m.modes.meets modes && (!handlersOnly || m.isHandler)) ∧
      (∀ es, r.mappings <+: (r.registerEach es).mappings) ∧
      (answer = .ambiguous ↔ equal ∧ longer) ∧
      (answer = .pending ↔ ks ≠ [] ∧ longer ∧ ¬ equal) ∧
      (answer.waits = false → answer = settled) ∧
      settled.waits = false ∧
      (∀ m i consumed, settled = .found m i consumed ↔
        r.keymap.Longest modes ks handlersOnly m i ∧ consumed = m.keys.length) ∧
      (settled = .missing ↔ ∀ m ∈ A, ¬ m.keys <+: ks) ∧
      (answer = .ambiguous → ∃ m i, settled = .found m i ks.length ∧ m.keys = ks) := by
  intro A equal longer answer settled
  have goesOn : r.keymap.GoesOn modes ks handlersOnly ↔ longer := Keymap.goesOn_iff
  have ambiguous : answer = .ambiguous ↔ equal ∧ longer := by
    rw [← goesOn]
    exact Keymap.lookup_eq_ambiguous_iff
  have pending : answer = .pending ↔ ks ≠ [] ∧ longer ∧ ¬ equal := by
    rw [← goesOn]
    exact Keymap.lookup_eq_pending_iff
  exact ⟨rfl, r.registerEach_extends, ambiguous, pending, Keymap.lookup_eq_longest_of_not_waits,
    Keymap.waits_longest .., fun _ _ _ => Keymap.longest_eq_found_iff,
    Keymap.longest_eq_missing_iff_applying,
    fun asks => Keymap.longest_of_exact (ambiguous.1 asks).1⟩

/-- Every standard command goes on from no keys at all, but a look-up of no keys does not wait. -/
theorem standard_lookup_no_keys :
    let A := standard.keymap.applying { normal := true } false
    (∃ m ∈ A, [] <+: m.keys ∧ m.keys ≠ []) ∧ (¬ ∃ m ∈ A, m.keys = []) ∧
      standard.keymap.lookup { normal := true } [] false = .missing ∧
      standard.keymap.lookup { normal := true } [] false ≠ .pending := by
  refine ⟨by decide +kernel, Keymap.not_equal_nil, rfl, ?_⟩
  rw [Keymap.lookup_nil]
  intro same
  contradiction

end Registry

end ModalEditing
