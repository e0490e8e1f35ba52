import ModalEditing.Keymap.Basic
import ModalEditing.Key.Notation

/-! Making a keymap. A registry takes mappings one after another. An extension is a named
bundle of mappings, which may hold further extensions; while it is taken in, the registry
notes its name as the owner. Within an extension an entry that cannot be taken is passed over. -/

namespace ModalEditing

inductive Registration where
  | keys (modes : ModeSet) (ks produced : List Key) (remap : Bool)
  | handler (modes : ModeSet) (ks : List Key) (h : Handler)
  | extension (name : String) (entries : List Registration)

structure Registry where
  mappings : List Mapping := []
  extensions : List String := []
  owner : Option String := none

namespace Registry

def add (r : Registry) (modes : ModeSet) (ks : List Key) (target : Target) (remap : Bool) :
    Registry :=
  if h : ks.map Key.normalize ≠ [] then
    let m : Mapping :=
      { modes, keys := ks.map Key.normalize, target, remap, owner := r.owner, keys_ne_nil := h }
    { r with mappings := r.mappings ++ [m] }
  else r

def keymap (r : Registry) : Keymap := .ofMappings r.mappings

mutual

/-- Takes one entry. An extension of a name that is there already is refused. -/
def register (r : Registry) : Registration → Except Fault Registry
  | .keys modes ks produced remap => .ok (r.add modes ks (.keys produced) remap)
  | .handler modes ks h => .ok (r.add modes ks (.handler h) false)
  | .extension name entries =>
    if name ∈ r.extensions then .error (.duplicateExtension name)
    else
      let r := { r with extensions := r.extensions ++ [name], owner := some name }
      .ok { r.registerEach entries with owner := none }

def registerEach (r : Registry) : List Registration → Registry
  | [] => r
  | e :: es =>
    match r.register e with
    | .ok r => r.registerEach es
    | .error _ => r.registerEach es

end

end Registry

end ModalEditing
