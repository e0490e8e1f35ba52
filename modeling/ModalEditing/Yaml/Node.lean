import ModalEditing.Yaml.Token

/-! The tree that a YAML text describes. `Document.ofTokens` reads it from the tokens; the
tokens of the text close every collection that they open, so the reader only has to follow
them. An alias stands for a node that bears an anchor, and `Document.follow` goes from one to
the other. -/

namespace ModalEditing.Yaml

inductive Node where
  | scalar (text : String) (style : ScalarStyle) (tag : Option String)
  | sequence (items : List Node)
  | mapping (entries : List (Node × Node))
  | alias (number : Nat)
deriving Inhabited

namespace Node

def empty : Node := scalar "" .plain none

def isEmpty : Node → Bool
  | scalar text .plain _ => text.isEmpty
  | _ => false

end Node

structure Document where
  root : Node
  bearers : List (Nat × Node) := []

namespace Document

/-- The node that an alias stands for, and any other node itself. An alias bears no anchor, so
one step is enough. -/
def follow (d : Document) : Node → Node
  | .alias number => (d.bearers.lookup number).getD .empty
  | node => node

end Document

structure TokenFeed where
  tokens : List Token
  handles : List (String × Option String)
  numbers : List (String × Nat) := []
  /-- The nodes that bear an anchor, by its number, in the order in which they begin. Those that
  are unfinished are empty. -/
  bearers : Array (Nat × Node) := #[]

inductive Place where
  | entry
  | member
  | flow
deriving DecidableEq

def Place.stops : Place → List Token
  | entry => [.blockEntry, .key, .value, .blockEnd]
  | member => [.key, .value, .blockEnd]
  | flow => [.value, .flowEntry, .flowSequenceEnd, .flowMappingEnd]

namespace TokenFeed

def peek (f : TokenFeed) : Token := f.tokens.headD .streamEnd

def skip (f : TokenFeed) : TokenFeed := { f with tokens := f.tokens.tail }

/-- Begins a node, which may bear an anchor. The number of an anchor is how many names were known
before it. So a name that is given again takes a new number, which the next new name takes too;
of the nodes that bear one number, aliases mean the last. -/
def beginNode (f : TokenFeed) : Option String → TokenFeed
  | some name =>
    let number := f.numbers.length
    { f with numbers := (name, number) :: f.numbers.filter (·.1 ≠ name),
             bearers := f.bearers.push (number, .empty) }
  | none => f

def endNode (f : TokenFeed) (n : Nat) (anchor : Option String) (node : Node) : TokenFeed :=
  if anchor.isSome then { f with bearers := f.bearers.modify n fun (number, _) => (number, node) }
  else f

def fullTag (f : TokenFeed) (handle : String) (suffix : Option String) :
    Except Problem (Option String) :=
  if handle = "" then .ok suffix
  else match f.handles.lookup handle with
    | some start => .ok (do return (← start) ++ (← suffix))
    | none => .error .badTag

/-- What may stand before the content of a node. -/
structure Properties where
  anchor : Option String := none
  tagged : Bool := false
  tag : Option String := none

def properties (f : TokenFeed) : Except Problem (Properties × TokenFeed) := do
  match f.tokens with
  | .anchor a :: .tag h s :: ts | .tag h s :: .anchor a :: ts =>
    return ({ anchor := some a, tagged := true, tag := ← f.fullTag h s }, { f with tokens := ts })
  | .anchor a :: ts => return ({ anchor := some a }, { f with tokens := ts })
  | .tag h s :: ts => return ({ tagged := true, tag := ← f.fullTag h s }, { f with tokens := ts })
  | _ => return ({}, f)

mutual

/-- Reads a node. The number bounds the nesting of the calls; twice the number of tokens is
enough. -/
def readNode : Nat → Place → TokenFeed → Except Problem (Node × TokenFeed)
  | 0, _, _ => .error .expectedNode
  | n + 1, place, f =>
    match f.peek with
    | .alias name =>
      match f.numbers.lookup name with
      | some number => .ok (.alias number, f.skip)
      | none => .error .unknownAlias
    | _ => do
      let (props, f) ← f.properties
      let before := f.bearers.size
      let f := f.beginNode props.anchor
      let (node, f) ← match f.peek with
        | .scalar text style => pure (Node.scalar text style props.tag, f.skip)
        | .flowSequenceStart => do
          let (items, f) ← readFlowItems n true f.skip
          pure (Node.sequence items, f)
        | .flowMappingStart => do
          let (entries, f) ← readFlowMembers n true f.skip
          pure (Node.mapping entries, f)
        | t =>
          if t = .blockEntry ∧ place = .member then do
            let (items, f) ← readEntries n true f
            pure (Node.sequence items, f)
          else if t = .blockSequenceStart ∧ place ≠ .flow then do
            let (items, f) ← readEntries n false f.skip
            pure (Node.sequence items, f)
          else if t = .blockMappingStart ∧ place ≠ .flow then do
            let (entries, f) ← readMembers n f.skip
            pure (Node.mapping entries, f)
          else if props.anchor.isSome || props.tagged then pure (Node.scalar "" .plain props.tag, f)
          else throw .expectedNode
      return (node, f.endNode before props.anchor node)

def readContent : Nat → Place → TokenFeed → Except Problem (Node × TokenFeed)
  | 0, _, _ => .error .expectedNode
  | n + 1, place, f =>
    if f.peek ∈ place.stops then .ok (.empty, f) else readNode n place f

def readValue : Nat → Place → TokenFeed → Except Problem (Node × TokenFeed)
  | 0, _, _ => .error .expectedNode
  | n + 1, place, f => if f.peek = .value then readContent n place f.skip else .ok (.empty, f)

def readEntries : Nat → Bool → TokenFeed → Except Problem (List Node × TokenFeed)
  | 0, _, _ => .error .expectedEntry
  | n + 1, indentless, f =>
    if f.peek = .blockEntry then do
      let (item, f) ← readContent n .entry f.skip
      let (items, f) ← readEntries n indentless f
      return (item :: items, f)
    else if indentless then .ok ([], f)
    else if f.peek = .blockEnd then .ok ([], f.skip)
    else .error .expectedEntry

def readMembers : Nat → TokenFeed → Except Problem (List (Node × Node) × TokenFeed)
  | 0, _ => .error .expectedKey
  | n + 1, f =>
    if f.peek = .key then do
      let (key, f) ← readContent n .member f.skip
      let (value, f) ← readValue n .member f
      let (entries, f) ← readMembers n f
      return ((key, value) :: entries, f)
    else if f.peek = .blockEnd then .ok ([], f.skip)
    else .error .expectedKey

def readFlowItems : Nat → Bool → TokenFeed → Except Problem (List Node × TokenFeed)
  | 0, _, _ => .error .expectedEntry
  | n + 1, first, f =>
    if f.peek = .flowSequenceEnd then .ok ([], f.skip)
    else if !first && f.peek ≠ .flowEntry then .error .expectedEntry
    else do
      let f := if first then f else f.skip
      if f.peek = .flowSequenceEnd then return ([], f.skip)
      let (item, f) ←
        if f.peek = .key then do
          let (key, f) ← readContent n .flow f.skip
          let (value, f) ← readValue n .flow f
          pure (Node.mapping [(key, value)], f)
        else readNode n .flow f
      let (items, f) ← readFlowItems n false f
      return (item :: items, f)

def readFlowMembers : Nat → Bool → TokenFeed → Except Problem (List (Node × Node) × TokenFeed)
  | 0, _, _ => .error .expectedKey
  | n + 1, first, f =>
    if f.peek = .flowMappingEnd then .ok ([], f.skip)
    else if !first && f.peek ≠ .flowEntry then .error .expectedKey
    else do
      let f := if first then f else f.skip
      if f.peek = .flowMappingEnd then return ([], f.skip)
      let (entry, f) ←
        if f.peek = .key then do
          let (key, f) ← readContent n .flow f.skip
          let (value, f) ← readValue n .flow f
          pure ((key, value), f)
        else do
          let (key, f) ← readNode n .flow f
          pure ((key, Node.empty), f)
      let (entries, f) ← readFlowMembers n false f
      return (entry :: entries, f)

end

def readDirectives (versioned : Bool) (handles : List (String × Option String)) :
    List Token → Except Problem (List (String × Option String) × List Token)
  | .versionDirective major minor :: ts =>
    if versioned ∨ major ≠ 1 ∨ (minor ≠ 1 ∧ minor ≠ 2) then .error .badDirective
    else readDirectives true handles ts
  | .tagDirective handle start :: ts =>
    if (handles.lookup handle).isSome then .error .badDirective
    else readDirectives versioned ((handle, start) :: handles) ts
  | ts => .ok (handles, ts)

def standardHandles : List (String × Option String) :=
  [("!", some "!"), ("!!", some "tag:yaml.org,2002:")]

def readDocument (tokens : List Token) : Except Problem (Node × TokenFeed) := do
  let (handles, rest) ← readDirectives false [] tokens
  let f : TokenFeed := { tokens := rest, handles := handles ++ standardHandles }
  let bound := 4 * tokens.length + 4
  match f.peek with
  | .documentStart =>
    match f.skip.peek with
    | .versionDirective .. | .tagDirective .. | .documentStart | .documentEnd | .streamEnd =>
      return (.empty, f.skip)
    | _ => readNode bound .entry f.skip
  | _ => if rest.length = tokens.length then readNode bound .entry f else throw .badDirective

end TokenFeed

def Document.ofTokens (tokens : List Token) : Except Problem (Option Document) :=
  if tokens = [.streamEnd] then .ok none
  else do
    let (root, f) ← TokenFeed.readDocument tokens
    if f.tokens.dropWhile (· = .documentEnd) = [.streamEnd] then
      return some { root, bearers := f.bearers.toList.reverse }
    else throw .expectedEnd

def Document.ofText (text : String) : Except Problem (Option Document) := do
  Document.ofTokens (← Yaml.tokens text).toList

end ModalEditing.Yaml
