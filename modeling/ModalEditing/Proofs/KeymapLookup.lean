import Mathlib.Data.List.Induction
import ModalEditing.Keymap.Basic

/-! What a look-up finds, told by the table alone. The mapping found starts the keys and
applies; among those that do it is the longest, and the last of equally long ones. A look-up
waits for more keys exactly where a mapping that applies goes on from them. -/

namespace ModalEditing

theorem Mapping.head?_keys (m : Mapping) : m.keys.head? = some m.firstKey :=
  List.head?_eq_some_head m.keys_ne_nil

namespace Keymap

variable {km : Keymap} {modes : ModeSet} {ks : List Key} {handlersOnly : Bool}
  {m : Mapping} {i : Nat}

theorem mem_places (km : Keymap) (k : Key) (i : Nat) :
    i ∈ km.index.places k ↔ ∃ m, km.mappings[i]? = some m ∧ m.firstKey = k := by
  rw [km.index_eq, KeyIndex.places_ofKeys]
  simp only [List.mem_map, List.mem_filter, decide_eq_true_eq, Prod.exists]
  constructor
  · rintro ⟨k', j, ⟨hj, rfl⟩, rfl⟩
    rw [List.mk_mem_zipIdx_iff_getElem?, List.getElem?_map, Option.map_eq_some_iff] at hj
    exact hj
  · rintro ⟨m, hm, rfl⟩
    refine ⟨m.firstKey, i, ⟨?_, rfl⟩, rfl⟩
    rw [List.mk_mem_zipIdx_iff_getElem?, List.getElem?_map, hm]
    rfl

theorem places_sorted (km : Keymap) (k : Key) : (km.index.places k).Pairwise (· < ·) := by
  rw [km.index_eq, KeyIndex.places_ofKeys]
  refine List.Pairwise.sublist (List.filter_sublist.map Prod.snd) ?_
  rw [List.zipIdx_map_snd]
  exact List.pairwise_lt_range'

theorem mem_candidates :
    (m, i) ∈ km.candidates modes ks handlersOnly ↔
      km.mappings[i]? = some m ∧ m.applies modes handlersOnly ∧ ks.head? = some m.firstKey := by
  cases ks with
  | nil => simp [candidates]
  | cons k ks =>
    simp only [candidates, List.mem_filterMap, Option.map_eq_some_iff, Prod.mk.injEq,
      Option.filter_eq_some_iff, mem_places, List.head?_cons, Option.some.injEq]
    constructor
    · rintro ⟨j, ⟨m', hm', rfl⟩, m'', ⟨hm, ha⟩, rfl, rfl⟩
      obtain rfl := Option.some.inj (hm'.symm.trans hm)
      exact ⟨hm, ha, rfl⟩
    · rintro ⟨hm, ha, hk⟩
      exact ⟨i, ⟨m, hm, hk.symm⟩, m, ⟨hm, ha⟩, rfl, rfl⟩

theorem candidates_sorted (km : Keymap) (modes : ModeSet) (ks : List Key) (handlersOnly : Bool) :
    (km.candidates modes ks handlersOnly).Pairwise fun a b => a.2 < b.2 := by
  cases ks with
  | nil => exact List.Pairwise.nil
  | cons k ks =>
    refine List.Pairwise.filterMap _ ?_ (km.places_sorted k)
    intro a b hab c hc c' hc'
    obtain ⟨_, _, rfl⟩ := Option.map_eq_some_iff.1 hc
    obtain ⟨_, _, rfl⟩ := Option.map_eq_some_iff.1 hc'
    exact hab

theorem longestOf_concat (ks : List Key) (cs : List (Mapping × Nat)) (c : Mapping × Nat) :
    longestOf ks (cs ++ [c]) =
      if c.1.keys.isPrefixOf ks ∧
          ((longestOf ks cs).all fun b => b.1.keys.length ≤ c.1.keys.length) then some c
      else longestOf ks cs := by
  simp [longestOf, List.foldl_append]

/-- `c` is the longest of the candidates whose keys start `ks`, and the last of these. -/
structure Beats (ks : List Key) (cs : List (Mapping × Nat)) (c : Mapping × Nat) : Prop where
  isPrefix : c.1.keys <+: ks
  split : ∃ l r, cs = l ++ c :: r ∧
    (∀ b ∈ l, b.1.keys <+: ks → b.1.keys.length ≤ c.1.keys.length) ∧
    ∀ b ∈ r, b.1.keys <+: ks → b.1.keys.length < c.1.keys.length

theorem Beats.length_le {cs : List (Mapping × Nat)} {b c : Mapping × Nat} (h : Beats ks cs c)
    (hb : b ∈ cs) (start : b.1.keys <+: ks) : b.1.keys.length ≤ c.1.keys.length := by
  obtain ⟨l, r, rfl, before, after⟩ := h.split
  rcases List.mem_append.1 hb with hb | hb
  · exact before b hb start
  · rcases List.mem_cons.1 hb with rfl | hb
    · exact Nat.le_refl _
    · exact Nat.le_of_lt (after b hb start)

/-- A candidate that comes last wins if none is longer. -/
theorem beats_last {cs : List (Mapping × Nat)} {c : Mapping × Nat} (start : c.1.keys <+: ks)
    (le : ∀ b ∈ cs, b.1.keys <+: ks → b.1.keys.length ≤ c.1.keys.length) :
    Beats ks (cs ++ [c]) c :=
  ⟨start, cs, [], rfl, le, fun _ hb => absurd hb List.not_mem_nil⟩

/-- A further candidate changes nothing if it is shorter, or does not start the keys. -/
theorem Beats.concat {cs : List (Mapping × Nat)} {b c : Mapping × Nat} (h : Beats ks cs b)
    (less : c.1.keys <+: ks → c.1.keys.length < b.1.keys.length) : Beats ks (cs ++ [c]) b := by
  obtain ⟨l, r, rfl, before, after⟩ := h.split
  refine ⟨h.isPrefix, l, r ++ [c], by simp, before, ?_⟩
  intro x hx start
  rcases List.mem_append.1 hx with hx | hx
  · exact after x hx start
  · obtain rfl := List.mem_singleton.1 hx
    exact less start

theorem longestOf_spec (ks : List Key) (cs : List (Mapping × Nat)) :
    match longestOf ks cs with
    | none => ∀ c ∈ cs, ¬ c.1.keys <+: ks
    | some c => Beats ks cs c := by
  -- from the end, as the last candidate is compared with the best of those before it
  induction cs using List.reverseRecOn with
  | nil => simp [longestOf]
  | append_singleton cs c ih =>
    rw [longestOf_concat]
    cases best : longestOf ks cs with
    | none =>
      simp only [best] at ih
      by_cases start : c.1.keys <+: ks
      · rw [if_pos (by simp [start])]
        exact beats_last start fun x hx hp => absurd hp (ih x hx)
      · rw [if_neg (by simp [start])]
        intro x hx
        rcases List.mem_append.1 hx with hx | hx
        · exact ih x hx
        · exact List.mem_singleton.1 hx ▸ start
    | some b =>
      simp only [best] at ih
      by_cases wins : c.1.keys <+: ks ∧ b.1.keys.length ≤ c.1.keys.length
      · rw [if_pos (by simp [wins])]
        exact beats_last wins.1 fun x hx hp => Nat.le_trans (ih.length_le hx hp) wins.2
      · rw [if_neg (by simpa using wins)]
        exact ih.concat fun start => Nat.lt_of_not_le fun le => wins ⟨start, le⟩

theorem head?_of_prefix (h : m.keys <+: ks) : ks.head? = some m.firstKey := by
  obtain ⟨rest, rfl⟩ := h
  rw [List.head?_append, m.head?_keys, Option.some_or]

theorem head?_of_extends (hk : ks ≠ []) (h : ks <+: m.keys) : ks.head? = some m.firstKey := by
  obtain ⟨rest, hr⟩ := h
  obtain ⟨k, ks, rfl⟩ := List.exists_cons_of_ne_nil hk
  rw [← m.head?_keys, ← hr]
  rfl

/-- `m`, at the place `i`, is the longest mapping that starts the keys, and the last of these. -/
structure Longest (km : Keymap) (modes : ModeSet) (ks : List Key) (handlersOnly : Bool)
    (m : Mapping) (i : Nat) : Prop where
  getElem? : km.mappings[i]? = some m
  applies : m.applies modes handlersOnly
  isPrefix : m.keys <+: ks
  wins : ∀ j m', km.mappings[j]? = some m' → m'.applies modes handlersOnly → m'.keys <+: ks →
    m'.keys.length < m.keys.length ∨ m'.keys.length = m.keys.length ∧ j ≤ i

theorem Longest.unique {m' : Mapping} {j : Nat} (h : km.Longest modes ks handlersOnly m i)
    (h' : km.Longest modes ks handlersOnly m' j) : m = m' ∧ i = j := by
  have above := h.wins j m' h'.getElem? h'.applies h'.isPrefix
  have below := h'.wins i m h.getElem? h.applies h.isPrefix
  obtain rfl : i = j := by omega
  exact ⟨Option.some.inj (h.getElem?.symm.trans h'.getElem?), rfl⟩

theorem place_cases {l r : List (Mapping × Nat)} {m' : Mapping} {j : Nat}
    (split : km.candidates modes ks handlersOnly = l ++ (m, i) :: r)
    (mem : (m', j) ∈ km.candidates modes ks handlersOnly) :
    (m', j) ∈ l ∧ j < i ∨ m' = m ∧ j = i ∨ (m', j) ∈ r := by
  have sorted := km.candidates_sorted modes ks handlersOnly
  rw [split] at mem sorted
  rcases List.mem_append.1 mem with before | after
  · exact Or.inl ⟨before, (List.pairwise_append.1 sorted).2.2 _ before (m, i) List.mem_cons_self⟩
  · rcases List.mem_cons.1 after with same | after
    · exact Or.inr (Or.inl (Prod.mk.inj same))
    · exact Or.inr (Or.inr after)

theorem longest_spec (km : Keymap) (modes : ModeSet) (ks : List Key) (handlersOnly : Bool) :
    (∃ m i, km.longest modes ks handlersOnly = .found m i m.keys.length ∧
        km.Longest modes ks handlersOnly m i) ∨
      km.longest modes ks handlersOnly = .missing ∧
        ∀ m ∈ km.mappings, m.applies modes handlersOnly → ¬ m.keys <+: ks := by
  have spec := longestOf_spec ks (km.candidates modes ks handlersOnly)
  unfold longest
  cases hb : longestOf ks (km.candidates modes ks handlersOnly) with
  | none =>
    simp only [hb] at spec
    refine Or.inr ⟨rfl, ?_⟩
    intro m hm ha hp
    obtain ⟨i, hi⟩ := List.mem_iff_getElem?.1 hm
    exact spec (m, i) (mem_candidates.2 ⟨hi, ha, head?_of_prefix hp⟩) hp
  | some c =>
    obtain ⟨m, i⟩ := c
    simp only [hb] at spec
    have hp := spec.isPrefix
    obtain ⟨l, r, hcs, hl, hr⟩ := spec.split
    have hc : (m, i) ∈ km.candidates modes ks handlersOnly := by simp [hcs]
    obtain ⟨hi, ha, _⟩ := mem_candidates.1 hc
    refine Or.inl ⟨m, i, rfl, hi, ha, hp, ?_⟩
    intro j m' hj ha' hp'
    have mem := mem_candidates.2 ⟨hj, ha', head?_of_prefix hp'⟩
    rcases place_cases hcs mem with ⟨before, less⟩ | ⟨rfl, rfl⟩ | after
    · have := hl _ before hp'
      simp only at this
      omega
    · omega
    · exact Or.inl (hr _ after hp')

theorem longest_eq_found_iff {n : Nat} :
    km.longest modes ks handlersOnly = .found m i n ↔
      km.Longest modes ks handlersOnly m i ∧ n = m.keys.length := by
  rcases km.longest_spec modes ks handlersOnly with ⟨m', j, hf, hl⟩ | ⟨hm, none⟩
  · rw [hf, Lookup.found.injEq]
    constructor
    · rintro ⟨rfl, rfl, rfl⟩
      exact ⟨hl, rfl⟩
    · rintro ⟨h, rfl⟩
      obtain ⟨rfl, rfl⟩ := hl.unique h
      exact ⟨rfl, rfl, rfl⟩
  · rw [hm]
    constructor
    · intro h
      contradiction
    · rintro ⟨h, _⟩
      exact absurd h.isPrefix (none m (List.mem_of_getElem? h.getElem?) h.applies)

theorem longest_eq_missing_iff :
    km.longest modes ks handlersOnly = .missing ↔
      ∀ m ∈ km.mappings, m.applies modes handlersOnly → ¬ m.keys <+: ks := by
  rcases km.longest_spec modes ks handlersOnly with ⟨m, i, hf, hl⟩ | ⟨hm, none⟩
  · rw [hf]
    constructor
    · intro h
      contradiction
    · intro h
      exact absurd hl.isPrefix (h m (List.mem_of_getElem? hl.getElem?) hl.applies)
  · exact ⟨fun _ => none, fun _ => hm⟩

def GoesOn (km : Keymap) (modes : ModeSet) (ks : List Key) (handlersOnly : Bool) : Prop :=
  ∃ m ∈ km.mappings, m.applies modes handlersOnly ∧ ks <+: m.keys ∧ ks.length < m.keys.length

theorem any_longer_iff (hk : ks ≠ []) :
    ((km.candidates modes ks handlersOnly).any fun c =>
        ks.length < c.1.keys.length && ks.isPrefixOf c.1.keys) = true ↔
      km.GoesOn modes ks handlersOnly := by
  simp only [List.any_eq_true, Prod.exists, Bool.and_eq_true, decide_eq_true_eq,
    List.isPrefixOf_iff_prefix, mem_candidates]
  constructor
  · rintro ⟨m, i, ⟨hi, ha, _⟩, hlen, hp⟩
    exact ⟨m, List.mem_of_getElem? hi, ha, hp, hlen⟩
  · rintro ⟨m, hm, ha, hp, hlen⟩
    obtain ⟨i, hi⟩ := List.mem_iff_getElem?.1 hm
    exact ⟨m, i, ⟨hi, ha, head?_of_extends hk hp⟩, hlen, hp⟩

theorem lookup_waits_iff (hk : ks ≠ []) :
    (km.lookup modes ks handlersOnly).waits ↔ km.GoesOn modes ks handlersOnly := by
  rw [← any_longer_iff hk]
  unfold lookup
  simp only
  split
  · next longer => simp [Lookup.waits, longer]
  · next longer => simp [Lookup.waits, longer]
  · next longer => simp [Lookup.waits, longer]
  · next longer => simp [longer]

/-- No candidate after the chosen one has just these keys. -/
theorem exactOf_spec {cs : List (Mapping × Nat)} {c : Mapping × Nat} (h : exactOf ks cs = some c) :
    ∃ l r, cs = l ++ c :: r ∧ ∀ b ∈ r, b.1.keys ≠ ks := by
  obtain ⟨_, later, before, split, others⟩ := List.find?_eq_some_iff_append.1 h
  refine ⟨before.reverse, later.reverse, ?_, ?_⟩
  · have reversed := congrArg List.reverse split
    simpa using reversed
  · intro b hb same
    simpa [same] using others b (List.mem_reverse.1 hb)

/-- The newest mapping of just these keys is the longest one that starts them. -/
theorem longest_of_exactOf (h : exactOf ks (km.candidates modes ks handlersOnly) = some (m, i)) :
    km.Longest modes ks handlersOnly m i := by
  have keys : m.keys = ks := keys_of_exactOf h
  obtain ⟨l, r, split, later⟩ := exactOf_spec h
  have mem : (m, i) ∈ km.candidates modes ks handlersOnly := by simp [split]
  obtain ⟨here, applies, _⟩ := mem_candidates.1 mem
  refine ⟨here, applies, keys ▸ List.prefix_rfl, ?_⟩
  intro j m' hj ha start
  rw [keys]
  rcases Nat.lt_or_eq_of_le start.length_le with shorter | full
  · exact Or.inl shorter
  -- another mapping of just these keys stands before, or it would have been met first
  · have same : m'.keys = ks := start.eq_of_length full
    refine Or.inr ⟨full, ?_⟩
    rcases place_cases split (mem_candidates.2 ⟨hj, ha, head?_of_prefix start⟩) with
      ⟨_, less⟩ | ⟨_, rfl⟩ | after
    · exact Nat.le_of_lt less
    · exact Nat.le_refl _
    · exact absurd same (later _ after)

theorem lookup_eq_longest (hk : ks ≠ []) (h : ¬ km.GoesOn modes ks handlersOnly) :
    km.lookup modes ks handlersOnly = km.longest modes ks handlersOnly := by
  rw [← any_longer_iff hk, Bool.not_eq_true] at h
  unfold lookup
  simp only [h]
  cases chosen : exactOf ks (km.candidates modes ks handlersOnly) with
  | none => rfl
  | some c =>
    have found := longest_of_exactOf chosen
    rw [longest_eq_found_iff.2 ⟨found, rfl⟩, keys_of_exactOf chosen]

end Keymap

end ModalEditing
