import ModalEditing.Action
import ModalEditing.Command.Basic
import ModalEditing.Mode.Basic
import ModalEditing.Quoted

/-! Values in words, for people who look into the editor: a mode as a path, and the one-line
form with named fields of modes, spans, selections and actions. -/

namespace ModalEditing.Inspect

def record (name : String) (fields : List (String × String)) (after : String := "") : String :=
  name ++ " \x7b " ++ ", ".intercalate (fields.map fun (f, v) => f ++ ": " ++ v) ++ after ++ " \x7d"

def tuple (name : String) (values : List String) : String :=
  name ++ "(" ++ ", ".intercalate values ++ ")"

def option (value : Option String) : String :=
  match value with
  | none => "None"
  | some v => tuple "Some" [v]

def bool (b : Bool) : String := if b then "true" else "false"

end ModalEditing.Inspect

namespace ModalEditing

def Shape.name : Shape → String
  | character => "character"
  | line => "line"
  | block => "block"

def LastingMode.name : LastingMode → String
  | normal => "normal"
  | insert => "insert"
  | replace => "replace"

def Mode.path : Mode → String
  | normal => "normal"
  | insert => "insert"
  | replace => "replace"
  | visual shape next oneShot =>
    "visual/" ++ shape.name ++ "/" ++ next.name ++ (if oneShot then "/one_shot" else "")
  | select shape next => "select/" ++ shape.name ++ "/" ++ next.name
  | operatorPending next => "operator_pending/" ++ next.name

def Shape.inspect : Shape → String
  | character => "Character"
  | line => "Line"
  | block => "Block"

def LastingMode.inspect : LastingMode → String
  | normal => "Normal"
  | insert => "Insert"
  | replace => "Replace"

def Mode.inspect : Mode → String
  | normal => "Normal"
  | insert => "Insert"
  | replace => "Replace"
  | visual shape next oneShot =>
    Inspect.record "Visual"
      [("kind", shape.inspect), ("return_to", next.inspect), ("one_shot", Inspect.bool oneShot)]
  | select shape next =>
    Inspect.record "Select" [("kind", shape.inspect), ("return_to", next.inspect)]
  | operatorPending next => Inspect.record "OperatorPending" [("return_to", next.inspect)]

def Span.inspect (r : Span) : String :=
  Inspect.record "Range"
    [("start", Nat.repr r.start), ("end", Nat.repr r.stop), ("line_wise", Inspect.bool r.lineWise)]

def Selection.inspect (s : Selection) : String :=
  Inspect.record "Selection"
    [("anchor", Nat.repr s.anchor), ("head", Nat.repr s.head), ("kind", s.shape.inspect),
     ("exclusive", Inspect.bool s.exclusive)]

def Action.inspect : Action → String
  | setCursor p => Inspect.tuple "SetCursor" [Nat.repr p]
  | setSelection s => Inspect.tuple "SetSelection" [Inspect.option (s.map Selection.inspect)]
  | operate o span shape count register =>
    Inspect.record "ApplyOperator"
      [("operator", o.label), ("range", span.inspect), ("kind", shape.inspect),
       ("count", Nat.repr count), ("register", Inspect.option (register.map Quoted.char))]
  | insertText p s => Inspect.record "InsertText" [("at", Nat.repr p), ("text", Quoted.text s)]
  | replaceText p s => Inspect.record "ReplaceText" [("at", Nat.repr p), ("text", Quoted.text s)]
  | bell => "Bell"

end ModalEditing
