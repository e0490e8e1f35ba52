import ModalEditing.Fault
import ModalEditing.Mode.Basic

/-! Sets of modes, as mappings name them: one letter for each mode, `v` for Visual and
Select together, and no letter at all for the four modes in which keys are commands. -/

namespace ModalEditing

structure ModeSet where
  normal : Bool := false
  visual : Bool := false
  select : Bool := false
  operatorPending : Bool := false
  insert : Bool := false
deriving DecidableEq, Inhabited

namespace ModeSet

def union (a b : ModeSet) : ModeSet where
  normal := a.normal || b.normal
  visual := a.visual || b.visual
  select := a.select || b.select
  operatorPending := a.operatorPending || b.operatorPending
  insert := a.insert || b.insert

instance : Union ModeSet := ⟨union⟩

def meets (a b : ModeSet) : Bool :=
  a.normal && b.normal || a.visual && b.visual || a.select && b.select
    || a.operatorPending && b.operatorPending || a.insert && b.insert

def commands : ModeSet := { normal := true, visual := true, operatorPending := true }

def objects : ModeSet := { visual := true, operatorPending := true }

def selecting : ModeSet := { visual := true, select := true }

/-- The set that no letter at all names. -/
def unnamed : ModeSet := { normal := true, visual := true, select := true, operatorPending := true }

def ofLetter? : Char → Option ModeSet
  | 'n' => some { normal := true }
  | 'x' => some { visual := true }
  | 's' => some { select := true }
  | 'o' => some { operatorPending := true }
  | 'i' => some { insert := true }
  | 'v' => some selecting
  | _ => none

def ofLetters (s : String) : Except Fault ModeSet :=
  match s.toList with
  | [] => .ok unnamed
  | cs =>
    match cs.mapM ofLetter? with
    | some sets => .ok (sets.foldl union {})
    | none => .error (.modeLetters s)

def letters (a : ModeSet) : String :=
  (if a.normal then "n" else "") ++ (if a.visual then "x" else "") ++
  (if a.select then "s" else "") ++ (if a.operatorPending then "o" else "") ++
  (if a.insert then "i" else "")

end ModeSet

/-- The set of the one mode that mappings see. -/
def Mode.toModeSet : Mode → ModeSet
  | normal => { normal := true }
  | insert | replace => { insert := true }
  | visual .. => { visual := true }
  | select .. => { select := true }
  | operatorPending _ => { operatorPending := true }

end ModalEditing
