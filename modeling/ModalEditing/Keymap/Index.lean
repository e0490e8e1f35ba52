import ModalEditing.Key.Basic

/-! An index of numbered key lists by their first keys. Under each key stand the numbers of
the lists that start with it, in the order in which they were put in. -/

namespace ModalEditing

structure KeyIndex where
  buckets : List (Key × List Nat) := []
deriving DecidableEq, Inhabited

namespace KeyIndex

def places (ix : KeyIndex) (k : Key) : List Nat := (ix.buckets.lookup k).getD []

def insertBucket (k : Key) (i : Nat) : List (Key × List Nat) → List (Key × List Nat)
  | [] => [(k, [i])]
  | (k', is) :: rest => if k' = k then (k', is ++ [i]) :: rest else (k', is) :: insertBucket k i rest

def insert (ix : KeyIndex) (k : Key) (i : Nat) : KeyIndex := ⟨insertBucket k i ix.buckets⟩

def ofKeys (ks : List Key) : KeyIndex := ks.zipIdx.foldl (fun ix (k, i) => ix.insert k i) {}

theorem lookup_insertBucket (k k' : Key) (i : Nat) (bs : List (Key × List Nat)) :
    ((insertBucket k i bs).lookup k').getD [] =
      (bs.lookup k').getD [] ++ if k' = k then [i] else [] := by
  induction bs with
  | nil => by_cases h : k' = k <;> simp [insertBucket, List.lookup_cons, h, beq_false_of_ne]
  | cons b bs ih =>
    obtain ⟨j, is⟩ := b
    by_cases hj : j = k
    · subst hj
      by_cases h : k' = j <;> simp [insertBucket, List.lookup_cons, h, beq_false_of_ne]
    · by_cases h : k' = j
      · subst h
        simp [insertBucket, hj]
      · simpa [insertBucket, List.lookup_cons, hj, h, beq_false_of_ne] using ih

theorem places_insert (ix : KeyIndex) (k k' : Key) (i : Nat) :
    (ix.insert k i).places k' = ix.places k' ++ if k' = k then [i] else [] :=
  lookup_insertBucket k k' i ix.buckets

/-- Under a key stand the numbers of its occurrences, in order. -/
theorem places_ofKeys (ks : List Key) (k : Key) :
    (ofKeys ks).places k = (ks.zipIdx.filter fun e => e.1 = k).map Prod.snd := by
  suffices h : ∀ (es : List (Key × Nat)) (ix : KeyIndex),
      (es.foldl (fun ix (k, i) => ix.insert k i) ix).places k =
        ix.places k ++ (es.filter fun e => e.1 = k).map Prod.snd by
    simpa [ofKeys, places] using h ks.zipIdx {}
  intro es
  induction es with
  | nil => simp
  | cons e es ih =>
    intro ix
    rw [List.foldl_cons, ih, places_insert]
    by_cases h : e.1 = k
    · simp [h]
    · simp [h, Ne.symm h]

end KeyIndex

end ModalEditing
