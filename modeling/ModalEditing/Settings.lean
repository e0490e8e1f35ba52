import ModalEditing.Editor.Basic
import ModalEditing.Keymap.Directive
import ModalEditing.Selection
import ModalEditing.Yaml.Node

/-! Settings that users write as YAML: the end rule of selections, extensions to take in by
name, and mappings. All fields have defaults except the keys of a mapping and the keys it
produces; a field that is unknown or given twice is refused.

```yaml
selection: exclusive
extensions: [textobj-indent]
mappings:
  - mode: n
    from: "<Space>i"
    to: "vii"
```
-/

namespace ModalEditing

structure MappingSetting where
  modes : String := ""
  keys : String
  produced : String
  remap : Bool := true
deriving DecidableEq

structure Settings where
  endRule : EndRule := .inclusive
  extensions : List String := []
  mappings : List MappingSetting := []
deriving DecidableEq

namespace Settings

inductive Problem where
  | malformed (p : Yaml.Problem)
  | unreadableFile (path : String)
  | unknownField (name : String)
  | repeatedField (name : String)
  | missingField (name : String)
  | unknownEndRule (name : String)
  | expectedFields
  | expectedList
  | expectedText
  | expectedFlag
  | expectedEndRule
deriving DecidableEq

namespace Problem

def message : Problem → String
  | malformed p => p.message
  | unreadableFile path => path ++ ": cannot be read"
  | unknownField name => "unknown field " ++ name
  | repeatedField name => "duplicate field " ++ name
  | missingField name => "missing field " ++ name
  | unknownEndRule name => "unknown selection behaviour " ++ name
  | expectedFields => "expected a mapping"
  | expectedList => "expected a sequence"
  | expectedText => "expected a string"
  | expectedFlag => "expected true or false"
  | expectedEndRule => "expected a selection behaviour"

def fault (p : Problem) : Fault := .settings p.message

end Problem

abbrev Reading := Except Problem

def readText (d : Yaml.Document) (n : Yaml.Node) : Reading String :=
  match d.follow n with
  | .scalar text _ _ => .ok text
  | _ => .error .expectedText

/-- A flag is not in quotes, unless a tag says what the literal block means. -/
def readFlag (d : Yaml.Document) (n : Yaml.Node) : Reading Bool :=
  match d.follow n with
  | .scalar text style tag =>
    let bare := style = .plain ∨ (style = .literal ∧ tag = some "tag:yaml.org,2002:bool")
    if bare ∧ text ∈ ["true", "True", "TRUE"] then .ok true
    else if bare ∧ text ∈ ["false", "False", "FALSE"] then .ok false
    else .error .expectedFlag
  | _ => .error .expectedFlag

def readItems (d : Yaml.Document) (n : Yaml.Node) : Reading (List Yaml.Node) :=
  match d.follow n with
  | .sequence items => .ok items
  | n => if n.isEmpty then .ok [] else .error .expectedList

def endRuleNamed (name : String) : Reading EndRule :=
  if name = "inclusive" then .ok .inclusive
  else if name = "exclusive" then .ok .exclusive
  else .error (.unknownEndRule name)

/-- The name that a local tag gives: what follows its mark, or the mark if nothing does. The
other tags, such as those of the standard types, give none. -/
def localName? (tag : String) : Option String :=
  match tag.toList with
  | ['!'] => some "!"
  | '!' :: cs => some (String.ofList cs)
  | _ => none

def readEndRule (d : Yaml.Document) (n : Yaml.Node) : Reading EndRule :=
  match d.follow n with
  | .scalar text style tag =>
    match tag.bind localName? with
    | none => endRuleNamed text
    | some name =>
      if style = .plain ∧ text ∈ ["", "~", "null", "Null", "NULL"] then endRuleNamed name
      else .error .expectedEndRule
  | _ => .error .expectedEndRule

def readFields (d : Yaml.Document) (known : List String) (n : Yaml.Node) :
    Reading (List (String × Yaml.Node)) :=
  match d.follow n with
  | .mapping entries =>
    entries.foldlM (fun fields (key, value) => do
      let name ← readText d key
      if name ∉ known then throw (.unknownField name)
      if (fields.lookup name).isSome then throw (.repeatedField name)
      return fields ++ [(name, value)]) []
  | n => if n.isEmpty then .ok [] else .error .expectedFields

section

variable {α : Type}

def required (name : String) (read : Yaml.Node → Reading α) (fields : List (String × Yaml.Node)) :
    Reading α :=
  match fields.lookup name with
  | some n => read n
  | none => .error (.missingField name)

def optional (name : String) (default : α) (read : Yaml.Node → Reading α)
    (fields : List (String × Yaml.Node)) : Reading α :=
  match fields.lookup name with
  | some n => read n
  | none => .ok default

end

def readMapping (d : Yaml.Document) (n : Yaml.Node) : Reading MappingSetting := do
  let fields ← readFields d ["mode", "from", "to", "remap"] n
  return { modes := ← optional "mode" "" (readText d) fields
           keys := ← required "from" (readText d) fields
           produced := ← required "to" (readText d) fields
           remap := ← optional "remap" true (readFlag d) fields }

def ofDocument (d : Yaml.Document) : Reading Settings := do
  let fields ← readFields d ["selection", "extensions", "mappings"] d.root
  return { endRule := ← optional "selection" .inclusive (readEndRule d) fields
           extensions :=
             ← optional "extensions" [] (fun n => do (← readItems d n).mapM (readText d)) fields
           mappings :=
             ← optional "mappings" [] (fun n => do (← readItems d n).mapM (readMapping d)) fields }

def read (text : String) : Reading Settings :=
  match Yaml.Document.ofText text with
  | .error p => .error (.malformed p)
  | .ok none => .ok {}
  | .ok (some d) => ofDocument d

def ofText (text : String) : Except Fault Settings := (read text).mapError Problem.fault

def ofFile (path : String) (contents : Option String) : Except Fault Settings :=
  match contents with
  | some text => ofText text
  | none => .error (Problem.unreadableFile path).fault

/-- The entries beyond the standard ones: the extensions, then the mappings, which thus win
over them. -/
def directives (s : Settings) : List Directive :=
  s.extensions.map Directive.shipped ++
    s.mappings.map fun m => .map m.modes m.keys m.produced m.remap

def keymap (s : Settings) : Except Fault Keymap := do
  return (← Registry.standard.follow s.directives).keymap

def editor (s : Settings) : Editor := { modes := { endRule := s.endRule } }

end Settings

end ModalEditing
