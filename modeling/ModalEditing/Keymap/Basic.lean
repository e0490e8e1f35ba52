import ModalEditing.Key.Basic
import ModalEditing.Keymap.Handler
import ModalEditing.Keymap.Index
import ModalEditing.Keymap.ModeSet

/-! Keymaps: tables of mappings, in the order in which they were made, with an index by the
first key. Keys that have been typed are looked up among the mappings of the current mode; of
two mappings of the same keys the later one counts. `Keymap.lookup` waits for more keys where
a longer mapping is in reach, `Keymap.longest` does not. -/

namespace ModalEditing

inductive Target where
  | keys (ks : List Key)
  | handler (h : Handler)

structure Mapping where
  modes : ModeSet
  keys : List Key
  target : Target
  remap : Bool
  owner : Option String
  keys_ne_nil : keys ≠ []

namespace Mapping

def firstKey (m : Mapping) : Key := m.keys.head m.keys_ne_nil

def isHandler (m : Mapping) : Bool :=
  match m.target with
  | .handler _ => true
  | .keys _ => false

def applies (m : Mapping) (modes : ModeSet) (handlersOnly : Bool) : Bool :=
  m.modes.meets modes && (!handlersOnly || m.isHandler)

end Mapping

structure Keymap where
  mappings : List Mapping
  index : KeyIndex
  index_eq : index = KeyIndex.ofKeys (mappings.map Mapping.firstKey)

def Keymap.ofMappings (ms : List Mapping) : Keymap where
  mappings := ms
  index := KeyIndex.ofKeys (ms.map Mapping.firstKey)
  index_eq := rfl

inductive Lookup where
  /-- The first `consumed` keys resolve to the mapping, which has the place `index`. -/
  | found (m : Mapping) (index consumed : Nat)
  | pending
  | ambiguous
  | missing

def Lookup.waits : Lookup → Bool
  | pending | ambiguous => true
  | found .. | missing => false

namespace Keymap

/-- The mappings that apply among those which begin as `ks` does, with their places. -/
def candidates (km : Keymap) (modes : ModeSet) (ks : List Key) (handlersOnly : Bool) :
    List (Mapping × Nat) :=
  match ks with
  | [] => []
  | k :: _ =>
    (km.index.places k).filterMap fun i =>
      (km.mappings[i]?.filter fun m => m.applies modes handlersOnly).map fun m => (m, i)

/-- The longest of the candidates whose keys start `ks`; of equally long ones the last. -/
def longestOf (ks : List Key) (cs : List (Mapping × Nat)) : Option (Mapping × Nat) :=
  cs.foldl
    (fun best c =>
      if c.1.keys.isPrefixOf ks ∧ (best.all fun b => b.1.keys.length ≤ c.1.keys.length) then some c
      else best)
    none

def longest (km : Keymap) (modes : ModeSet) (ks : List Key) (handlersOnly : Bool) : Lookup :=
  match longestOf ks (km.candidates modes ks handlersOnly) with
  | some (m, i) => .found m i m.keys.length
  | none => .missing

@[simp] theorem waits_longest (km : Keymap) (modes : ModeSet) (ks : List Key)
    (handlersOnly : Bool) : (km.longest modes ks handlersOnly).waits = false := by
  unfold longest
  split <;> rfl

/-- The newest of the candidates whose keys are just `ks`. -/
def exactOf (ks : List Key) (cs : List (Mapping × Nat)) : Option (Mapping × Nat) :=
  cs.reverse.find? fun c => c.1.keys == ks

def lookup (km : Keymap) (modes : ModeSet) (ks : List Key) (handlersOnly : Bool) : Lookup :=
  let cs := km.candidates modes ks handlersOnly
  let longer := cs.any fun c => ks.length < c.1.keys.length && ks.isPrefixOf c.1.keys
  match exactOf ks cs, longer with
  | some _, true => .ambiguous
  | none, true => .pending
  | some (m, i), false => .found m i ks.length
  | none, false => km.longest modes ks handlersOnly

theorem keys_of_exactOf {ks : List Key} {cs : List (Mapping × Nat)} {c : Mapping × Nat}
    (h : exactOf ks cs = some c) : c.1.keys = ks := by
  have same := List.find?_some h
  exact eq_of_beq same

theorem consumed_of_longest {km : Keymap} {modes : ModeSet} {ks : List Key} {handlersOnly : Bool}
    {m : Mapping} {i n : Nat} (h : km.longest modes ks handlersOnly = .found m i n) :
    n = m.keys.length := by
  unfold longest at h
  split at h
  · cases h
    rfl
  · contradiction

theorem consumed_of_lookup {km : Keymap} {modes : ModeSet} {ks : List Key} {handlersOnly : Bool}
    {m : Mapping} {i n : Nat} (h : km.lookup modes ks handlersOnly = .found m i n) :
    n = m.keys.length := by
  unfold lookup at h
  simp only at h
  split at h
  · contradiction
  · contradiction
  · next chosen _ =>
    cases h
    rw [← keys_of_exactOf chosen]
  · exact consumed_of_longest h

end Keymap

end ModalEditing
