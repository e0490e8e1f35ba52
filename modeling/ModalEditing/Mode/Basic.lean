import ModalEditing.Selection

/-! Editing modes. A mode that is entered for a while carries the lasting mode that comes
after it, so `Mode.after` needs no history. -/

namespace ModalEditing

inductive LastingMode where
  | normal
  | insert
  | replace
deriving DecidableEq, Inhabited

inductive Mode where
  | normal
  | insert
  | replace
  /-- Commands act on a selection. `oneShot` marks a single command out of Select. -/
  | visual (shape : Shape) (next : LastingMode) (oneShot : Bool)
  | select (shape : Shape) (next : LastingMode)
  | operatorPending (next : LastingMode)
deriving DecidableEq, Inhabited

def LastingMode.toMode : LastingMode → Mode
  | normal => .normal
  | insert => .insert
  | replace => .replace

inductive ModeEvent where
  | enterInsert
  | enterReplace
  | enterVisual (shape : Shape) (next : LastingMode)
  | toggleVisual (shape : Shape)
  | enterSelect (shape : Shape)
  | toggleSelectVisual
  | singleVisualCommand
  | enterOperatorPending
  | commandDone
  | exit
deriving DecidableEq, Inhabited

namespace Mode

/-- The lasting mode underneath; a lasting mode is its own. -/
def base : Mode → LastingMode
  | normal => .normal
  | insert => .insert
  | replace => .replace
  | visual _ next _ | select _ next | operatorPending next => next

def isVisual : Mode → Bool
  | visual .. => true
  | _ => false

def isSelect : Mode → Bool
  | select .. => true
  | _ => false

def isOperatorPending : Mode → Bool
  | operatorPending _ => true
  | _ => false

def isTyping : Mode → Bool
  | insert | replace => true
  | _ => false

def shape? : Mode → Option Shape
  | visual shape _ _ | select shape _ => some shape
  | _ => none

def hasSelection (m : Mode) : Bool := m.shape?.isSome

def caption : Mode → String
  | normal => "NORMAL"
  | insert => "INSERT"
  | replace => "REPLACE"
  | visual .character _ _ => "VISUAL"
  | visual .line _ _ => "VISUAL LINE"
  | visual .block _ _ => "VISUAL BLOCK"
  | select .character _ => "SELECT"
  | select .line _ => "SELECT LINE"
  | select .block _ => "SELECT BLOCK"
  | operatorPending _ => "OPERATOR-PENDING"

def after (m : Mode) (e : ModeEvent) : Mode :=
  match e with
  | .enterInsert => .insert
  | .enterReplace => .replace
  | .enterVisual shape next => .visual shape next false
  | .toggleVisual shape =>
    match m with
    | .visual current next oneShot =>
      if current = shape then next.toMode else .visual shape next oneShot
    | _ => .visual shape m.base false
  | .enterSelect shape => .select shape m.base
  | .toggleSelectVisual =>
    match m with
    | .visual shape next _ => .select shape next
    | .select shape next => .visual shape next false
    | _ => m
  | .singleVisualCommand =>
    match m with
    | .select shape next => .visual shape next true
    | .visual shape next true => .select shape next
    | _ => m
  | .enterOperatorPending => .operatorPending m.base
  | .commandDone =>
    match m with
    | .visual shape next true => .select shape next
    | .operatorPending next => next.toMode
    | _ => m
  | .exit =>
    match m with
    | .insert | .replace => .normal
    | _ => m.base.toMode

end Mode

end ModalEditing
