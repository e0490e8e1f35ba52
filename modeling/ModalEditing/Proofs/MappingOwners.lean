import Mathlib.Logic.Basic
import ModalEditing.Keymap.Registry

/-! The owners of mappings. The entries of extensions are taken in one within another, and a mapping
belongs to the innermost extension that is being taken in when it is made. The registry keeps this
extension in one place only, so an extension loses its later mappings once it has taken in another
one; all else about names, refused extensions and owners is as it should be. -/

namespace ModalEditing

structure Arrival where
  mapping : Mapping
  late : Bool

namespace Arrival

/-- The mapping as a registry records it, which has no owner left for late ones. -/
def recorded (a : Arrival) : Mapping :=
  if a.late then { a.mapping with owner := none } else a.mapping

theorem recorded_eq_iff (a : Arrival) :
    a.recorded = a.mapping ↔ (a.late → a.mapping.owner = none) := by
  unfold recorded
  split
  · next late =>
    rw [Mapping.mk.injEq]
    simp [late, eq_comm]
  · next early => simp [early]

end Arrival

def Mapping.make? (owner : Option String) (modes : ModeSet) (ks : List Key) (target : Target)
    (remap : Bool) : Option Mapping :=
  if h : ks.map Key.normalize ≠ [] then
    some { modes, keys := ks.map Key.normalize, target, remap, owner, keys_ne_nil := h }
  else none

namespace Registration

def isNew (known : List String) : Registration → Bool
  | .keys .. | .handler .. => false
  | .extension name _ => name ∉ known

mutual

def names (known : List String) : Registration → List String
  | .keys .. | .handler .. => known
  | .extension name entries =>
    if name ∈ known then known else namesEach (known ++ [name]) entries

def namesEach (known : List String) : List Registration → List String
  | [] => known
  | e :: es => namesEach (e.names known) es

end

mutual

/-- The mappings that the entry makes within the extension `inside`, those of extensions within it
among them. Extensions of known names make none. -/
def arrivals (inside : Option String) (late : Bool) (known : List String) :
    Registration → List Arrival
  | .keys modes ks produced remap =>
    ((Mapping.make? inside modes ks (.keys produced) remap).map (Arrival.mk · late)).toList
  | .handler modes ks h =>
    ((Mapping.make? inside modes ks (.handler h) false).map (Arrival.mk · late)).toList
  | .extension name entries =>
    if name ∈ known then [] else arrivalsEach (some name) false (known ++ [name]) entries

def arrivalsEach (inside : Option String) (late : Bool) (known : List String) :
    List Registration → List Arrival
  | [] => []
  | e :: es =>
    e.arrivals inside late known ++
      arrivalsEach inside (late || e.isNew known) (e.names known) es

end

end Registration

namespace Registry

variable {r : Registry} {inside : Option String} {late : Bool} {name : String}
  {entries : List Registration}

/-- The registry `r'` has, on top of what `r` has, the mappings that were made, and knows the
names. -/
structure Takes (r r' : Registry) (made : List Arrival) (names : List String) : Prop where
  mappings : r'.mappings = r.mappings ++ made.map Arrival.recorded
  extensions : r'.extensions = names

theorem Takes.trans {r r₁ r₂ : Registry} {made made' : List Arrival} {names names' : List String}
    (h : r.Takes r₁ made names) (h' : r₁.Takes r₂ made' names') :
    r.Takes r₂ (made ++ made') names' where
  mappings := by rw [h'.mappings, h.mappings, List.map_append, List.append_assoc]
  extensions := h'.extensions

theorem add_eq (r : Registry) (modes : ModeSet) (ks : List Key) (target : Target) (remap : Bool) :
    r.add modes ks target remap =
      { r with mappings := r.mappings ++ (Mapping.make? r.owner modes ks target remap).toList } := by
  unfold add Mapping.make?
  split
  · rfl
  · simp

theorem recorded_make? (inside : Option String) (late : Bool) (modes : ModeSet) (ks : List Key)
    (target : Target) (remap : Bool) :
    (((Mapping.make? inside modes ks target remap).map (Arrival.mk · late)).toList).map
        Arrival.recorded =
      (Mapping.make? (if late then none else inside) modes ks target remap).toList := by
  unfold Mapping.make? Arrival.recorded
  split
  · cases late <;> rfl
  · rfl

theorem add_takes (h : r.owner = if late then none else inside) (modes : ModeSet) (ks : List Key)
    (target : Target) (remap : Bool) :
    r.Takes (r.add modes ks target remap)
        ((Mapping.make? inside modes ks target remap).map (Arrival.mk · late)).toList
        r.extensions ∧
      (r.add modes ks target remap).owner = if late then none else inside := by
  rw [add_eq]
  refine ⟨⟨?_, rfl⟩, h⟩
  rw [recorded_make?, h]

theorem register_extension_error_iff :
    r.register (.extension name entries) = .error (.duplicateExtension name) ↔
      name ∈ r.extensions := by
  rw [register]
  split
  · next known => simp [known]
  · next new => simp [new]

theorem registerEach_of_refused (h : name ∈ r.extensions) (es : List Registration) :
    r.registerEach (.extension name entries :: es) = r.registerEach es := by
  rw [registerEach, register_extension_error_iff.2 h]

theorem registerEach_of_new (h : name ∉ r.extensions) :
    r.registerEach [.extension name entries] =
      { ({ r with extensions := r.extensions ++ [name], owner := some name } : Registry).registerEach
          entries with owner := none } := by
  simp only [registerEach, register, if_neg h]

theorem registerEach_cons (r : Registry) (e : Registration) (es : List Registration) :
    r.registerEach (e :: es) = (r.registerEach [e]).registerEach es := by
  simp only [registerEach]
  cases r.register e <;> rfl

mutual

/-- What one entry comes to, and who owns the next mapping: the extension `inside`, as long as it
has taken in no other one. -/
theorem entry_takes {r : Registry} (inside : Option String) (late : Bool)
    (h : r.owner = if late then none else inside) (e : Registration) :
    r.Takes (r.registerEach [e]) (e.arrivals inside late r.extensions) (e.names r.extensions) ∧
      (r.registerEach [e]).owner = if late || e.isNew r.extensions then none else inside := by
  cases e with
  | keys modes ks produced remap =>
    simp only [registerEach, register, Registration.arrivals, Registration.names,
      Registration.isNew, Bool.or_false]
    exact add_takes h modes ks _ remap
  | handler modes ks f =>
    simp only [registerEach, register, Registration.arrivals, Registration.names,
      Registration.isNew, Bool.or_false]
    exact add_takes h modes ks _ false
  | extension name entries =>
    simp only [Registration.arrivals, Registration.names, Registration.isNew]
    by_cases known : name ∈ r.extensions
    · rw [registerEach_of_refused known, registerEach]
      simp only [known, not_true, decide_false, Bool.or_false, if_true]
      exact ⟨⟨(List.append_nil _).symm, rfl⟩, h⟩
    · rw [registerEach_of_new known]
      let opened : Registry := { r with extensions := r.extensions ++ [name], owner := some name }
      have inner := each_takes (r := opened) (some name) false rfl entries
      simp only [known, not_false_eq_true, decide_true, Bool.or_true, if_true, if_false]
      exact ⟨⟨inner.mappings, inner.extensions⟩, trivial⟩

theorem each_takes {r : Registry} (inside : Option String) (late : Bool)
    (h : r.owner = if late then none else inside) (es : List Registration) :
    r.Takes (r.registerEach es) (Registration.arrivalsEach inside late r.extensions es)
      (Registration.namesEach r.extensions es) := by
  cases es with
  | nil =>
    rw [registerEach, Registration.arrivalsEach, Registration.namesEach]
    exact ⟨(List.append_nil _).symm, rfl⟩
  | cons e es =>
    obtain ⟨first, owner⟩ := entry_takes inside late h e
    have rest := each_takes inside _ owner es
    rw [first.extensions] at rest
    rw [registerEach_cons, Registration.arrivalsEach, Registration.namesEach]
    exact first.trans rest

end

theorem registerEach_extends (r : Registry) (es : List Registration) :
    r.mappings <+: (r.registerEach es).mappings :=
  ⟨_, (each_takes r.owner false rfl es).mappings.symm⟩

/-- The owner of a mapping is the innermost extension that was being taken in when it was made,
unless that one has taken in another extension before: then no owner is recorded. An extension whose
name is known is refused and leaves nothing behind. -/
theorem mappings_owned (r : Registry) (es : List Registration) (h : r.owner = none) :
    let made := Registration.arrivalsEach none false r.extensions es
    let table := (r.registerEach es).keymap.mappings
    table = r.mappings ++ made.map Arrival.recorded ∧
      (table = r.mappings ++ made.map Arrival.mapping ↔
        ∀ a ∈ made, a.late → a.mapping.owner = none) ∧
      (r.registerEach es).extensions = Registration.namesEach r.extensions es ∧
      ∀ (s : Registry) (name : String) (entries later : List Registration),
        (s.register (.extension name entries) = .error (.duplicateExtension name) ↔
            name ∈ s.extensions) ∧
          (name ∈ s.extensions →
            s.registerEach (.extension name entries :: later) = s.registerEach later) := by
  intro made table
  have taken := each_takes none false h es
  have recorded : table = r.mappings ++ made.map Arrival.recorded := taken.mappings
  refine ⟨recorded, ?_, taken.extensions, fun s name entries later =>
    ⟨register_extension_error_iff, fun known => registerEach_of_refused known later⟩⟩
  rw [recorded, List.append_cancel_left_eq, List.map_inj_left]
  exact forall₂_congr fun a _ => a.recorded_eq_iff

theorem mappings_owned_nested :
    let map (c : Char) : Registration := .keys { normal := true } [Key.plain c] [Key.plain 'x'] true
    let inner := Registration.extension "inner" [map 'b', .extension "outer" [map 'c'], map 'd']
    let outer := Registration.extension "outer" [map 'a', inner, map 'e']
    let r : Registry := {}
    let r' := r.registerEach [outer, map 'f', inner]
    r.owner = none ∧
      r'.keymap.mappings.map (fun m => (m.keys, m.owner)) =
        [([Key.plain 'a'], some "outer"), ([Key.plain 'b'], some "inner"),
          ([Key.plain 'd'], some "inner"), ([Key.plain 'e'], none), ([Key.plain 'f'], none)] ∧
      r'.extensions = ["outer", "inner"] := by
  intro map inner outer r r'
  obtain ⟨table, _, names, _⟩ := mappings_owned r [outer, map 'f', inner] rfl
  refine ⟨rfl, ?_, ?_⟩
  · rw [table]
    decide +kernel
  · rw [names]
    decide +kernel

/-- The extension makes the mapping, but no owner is recorded. -/
theorem owner_lost_after_nested :
    let map : Registration := .keys { normal := true } [Key.plain 'a'] [Key.plain 'b'] false
    let outer := Registration.extension "outer" [.extension "inner" [], map]
    let r := ({} : Registry).registerEach [outer]
    (Registration.arrivalsEach none false [] [outer]).map (fun a => a.mapping.owner) =
        [some "outer"] ∧
      r.keymap.mappings.map Mapping.owner = [none] ∧ r.extensions = ["outer", "inner"] := by
  decide +kernel

end Registry

end ModalEditing
