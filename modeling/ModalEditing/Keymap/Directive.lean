import ModalEditing.Keymap.Standard

/-! Registry entries as users write them, with modes and keys in letters. -/

namespace ModalEditing

inductive Directive where
  | map (modes ks produced : String) (remap : Bool)
  | handler (modes ks : String) (h : Handler)
  | keyHandler (modes : String) (ks : List Key) (h : Handler)
  | shipped (name : String)
  | extension (name : String) (items : List Directive)

namespace Directive

mutual

def read : Directive → Except Fault Registration
  | map modes ks produced remap => do
    return .keys (← ModeSet.ofLetters modes) (← Key.readAll ks) (← Key.readAll produced) remap
  | handler modes ks h => do
    return .handler (← ModeSet.ofLetters modes) (← Key.readAll ks) h
  | keyHandler modes ks h => do
    return .handler (← ModeSet.ofLetters modes) ks h
  | shipped name => shippedExtension name
  | extension name items => .ok (.extension name (readable items))

def readable : List Directive → List Registration
  | [] => []
  | d :: ds =>
    match d.read with
    | .ok e => e :: readable ds
    | .error _ => readable ds

end

end Directive

/-- Takes the directives in order, up to the first one that cannot be read or taken. -/
def Registry.follow (r : Registry) (ds : List Directive) : Except Fault Registry :=
  ds.foldlM (fun r d => do r.register (← d.read)) r

end ModalEditing
