import ModalEditing.Yaml.Scalar

/-! Tokens of a YAML text. Block collections are opened and closed by the columns of their
entries. A key that needs no mark of its own is known only at its colon, so the reader
remembers where such a key may have begun and puts the missing tokens in there. -/

namespace ModalEditing.Yaml

inductive Token where
  | streamEnd
  | documentStart
  | documentEnd
  | versionDirective (major minor : Nat)
  | tagDirective (handle : String) (start : Option String)
  | blockSequenceStart
  | blockMappingStart
  | blockEnd
  | flowSequenceStart
  | flowSequenceEnd
  | flowMappingStart
  | flowMappingEnd
  | blockEntry
  | flowEntry
  | key
  | value
  | alias (name : String)
  | anchor (name : String)
  | tag (handle : String) (suffix : Option String)
  | scalar (text : String) (style : ScalarStyle)
deriving DecidableEq, Inhabited

/-- A place where a key without a mark may have begun. -/
structure SimpleKey where
  required : Bool
  tokenIndex : Nat
  line : Nat
  column : Nat
  index : Nat

structure Lexer where
  source : Source
  tokens : Array Token := #[]
  indent : Int := -1
  outer : List Int := []
  keyAllowed : Bool := true
  /-- The possible keys, innermost first: one place for each flow collection and the block. -/
  keys : List (Option SimpleKey) := [none]

namespace Lexer

def inFlow (l : Lexer) : Bool := l.keys.length > 1

def emit (l : Lexer) (t : Token) : Lexer := { l with tokens := l.tokens.push t }

def advance (l : Lexer) (n : Nat := 1) : Lexer := { l with source := l.source.advance n }

def dropKey (l : Lexer) : Except Problem Lexer :=
  match l.keys with
  | some k :: keys => if k.required then .error .missingColon else .ok { l with keys := none :: keys }
  | _ => .ok l

def saveKey (l : Lexer) : Except Problem Lexer :=
  if l.keyAllowed then do
    let s := l.source
    let l ← l.dropKey
    let k : SimpleKey :=
      { required := !l.inFlow && l.indent == s.column, tokenIndex := l.tokens.size,
        line := s.line, column := s.column, index := s.index }
    return { l with keys := some k :: l.keys.tail }
  else .ok l

def dropStaleKeys (l : Lexer) : Except Problem Lexer := do
  let keys ← l.keys.mapM fun k =>
    match k with
    | none => .ok none
    | some k =>
      if k.line < l.source.line ∨ k.index + 1024 < l.source.index then
        if k.required then .error .missingColon else .ok none
      else .ok (some k)
  return { l with keys }

def openBlock (l : Lexer) (column : Nat) (tokenIndex : Nat) (t : Token) : Lexer :=
  if !l.inFlow && l.indent < column then
    { l with indent := column, outer := l.indent :: l.outer,
             tokens := l.tokens.insertIdxIfInBounds tokenIndex t }
  else l

def closeBlocks (column : Int) : List Int → Lexer → Lexer
  | [], l => l
  | o :: os, l =>
    if l.indent > column then closeBlocks column os { l.emit .blockEnd with indent := o, outer := os }
    else l

def close (l : Lexer) (column : Int) : Lexer :=
  if l.inFlow then l else closeBlocks column l.outer l

/-- Passes over blanks, comments and line ends. Where a key may begin, tabs do not count as
blanks. A byte order mark may begin a line, and takes a column of it. -/
def skipToToken : Nat → Lexer → Lexer
  | 0, l => l
  | n + 1, l =>
    let l := if l.source.column = 0 ∧ l.source.peek? = some '\ufeff' then l.advance else l
    let tabs := l.inFlow || !l.keyAllowed
    let s := l.source.skipWhile fun c => c == ' ' || (tabs && c == '\t')
    let s := if s.peek? = some '#' then s.skipWhile fun c => !isBreak c else s
    match s.peek? with
    | some c =>
      if isBreak c then
        skipToToken n { l with source := s.advanceLine, keyAllowed := l.keyAllowed || !l.inFlow }
      else { l with source := s }
    | none => { l with source := s }

def readName (s : Source) : Except Problem (String × Source) :=
  let name := s.rest.takeWhile isNameChar
  let s := s.advance name.length
  let ends := blankOrEnd s.peek? ||
    s.peek?.any ['?', ':', ',', ']', '\x7d', '%', '@', '\x60'].contains
  if name = [] ∨ !ends then .error .badName else .ok (String.ofList name, s)

def isUriChar (verbatim : Bool) (c : Char) : Bool :=
  isNameChar c || [';', '/', '?', ':', '@', '&', '=', '+', '$', '.', '!', '~', '*', '\x27', '(',
    ')'].contains c || (verbatim && [',', '[', ']'].contains c)

def octet? : List Char → Option UInt8
  | '%' :: a :: b :: _ => do return .ofNat (16 * (← hexDigit? a) + (← hexDigit? b))
  | _ => none

def octetsAfter? (o : UInt8) : Option Nat :=
  if o < 0x80 then some 0
  else if o / 0x20 = 0x6 then some 1
  else if o / 0x10 = 0xe then some 2
  else if o / 0x8 = 0x1e then some 3
  else none

def readOctets : Nat → List UInt8 → Source → Except Problem (List UInt8 × Source)
  | 0, out, s => .ok (out, s)
  | n + 1, out, s =>
    match octet? s.rest with
    | some o =>
      if o / 0x40 = 0x2 then readOctets n (out ++ [o]) (s.advance 3) else .error .badTag
    | none => .error .badTag

def readEscapedChar (s : Source) : Except Problem (List UInt8 × Source) :=
  match octet? s.rest with
  | some o =>
    match octetsAfter? o with
    | some n => readOctets n [o] (s.advance 3)
    | none => .error .badTag
  | none => .error .badTag

/-- Reads the characters of a tag as octets. Percent signs escape octets, of which only the
number and the marks of those that follow the first one are checked. -/
def readUri (verbatim : Bool) : Nat → List UInt8 → Source → Except Problem (List UInt8 × Source)
  | 0, out, s => .ok (out, s)
  | n + 1, out, s =>
    match s.peek? with
    | some '%' => do
      let (os, s) ← readEscapedChar s
      readUri verbatim n (out ++ os) s
    | some c =>
      if isUriChar verbatim c then readUri verbatim n (out ++ [c.toUInt8]) s.advance
      else .ok (out, s)
    | none => .ok (out, s)

def textOfOctets? (os : List UInt8) : Option String :=
  String.fromUTF8? ⟨(os.takeWhile (· ≠ 0)).toArray⟩

def readTag (flow : Bool) (s : Source) : Except Problem (Token × Source) := do
  let (t, s) ←
    if s.peek? 1 == some '<' then do
      let (uri, s) ← readUri true s.rest.length [] (s.advance 2)
      if uri = [] ∨ s.peek? ≠ some '>' then throw .badTag
      pure (Token.tag "" (textOfOctets? uri), s.advance)
    else do
      let name := (s.rest.drop 1).takeWhile isNameChar
      let after := s.advance (1 + name.length)
      if after.peek? == some '!' then
        let (uri, s) ← readUri false s.rest.length [] after.advance
        if uri = [] then throw .badTag
        pure (Token.tag (String.ofList ('!' :: name ++ ['!'])) (textOfOctets? uri), s)
      else
        let (uri, s) ← readUri false s.rest.length (name.map Char.toUInt8) after
        let suffix := textOfOctets? uri
        pure (if suffix = some "" then Token.tag "" (some "!") else Token.tag "!" suffix, s)
  if blankOrEnd s.peek? || (flow && s.peek? == some ',') then return (t, s) else throw .badTag

def readNumber (s : Source) : Except Problem (Nat × Source) :=
  let digits := s.rest.takeWhile Char.isDigit
  if digits = [] ∨ digits.length > 9 then .error .badDirective
  else .ok (digits.foldl (fun v d => 10 * v + (d.toNat - '0'.toNat)) 0, s.advance digits.length)

def readDirective (s : Source) : Except Problem (Token × Source) := do
  let name := (s.rest.drop 1).takeWhile isNameChar
  let s := s.advance (1 + name.length)
  if name = [] ∨ !blankOrEnd s.peek? then throw .badDirective
  let s := s.skipWhile isBlank
  let (t, s) ←
    if name = ['Y', 'A', 'M', 'L'] then do
      let (major, s) ← readNumber s
      if s.peek? != some '.' then throw .badDirective
      let (minor, s) ← readNumber s.advance
      pure (Token.versionDirective major minor, s)
    else if name = ['T', 'A', 'G'] then do
      if s.peek? != some '!' then throw .badDirective
      let word := (s.rest.drop 1).takeWhile isNameChar
      let closed := (s.peek? (1 + word.length)) == some '!'
      if word ≠ [] ∧ !closed then throw .badDirective
      let handle := '!' :: word ++ (if closed then ['!'] else [])
      let s := s.advance handle.length
      if !s.peek?.any isBlank then throw .badDirective
      let (uri, s) ← readUri true s.rest.length [] (s.skipWhile isBlank)
      if uri = [] ∨ !blankOrEnd s.peek? then throw .badDirective
      pure (Token.tagDirective (String.ofList handle) (textOfOctets? uri), s)
    else throw .badDirective
  let s := s.skipWhile isBlank
  let s := if s.peek? == some '#' then s.skipWhile fun c => !isBreak c else s
  if breakOrEnd s.peek? then return (t, if s.rest = [] then s else s.advanceLine)
  else throw .badDirective

def topLevel (l : Lexer) : Except Problem Lexer := do
  return { ← (l.close (-1)).dropKey with keyAllowed := false }

def openFlow (l : Lexer) (t : Token) : Except Problem Lexer := do
  let l ← l.saveKey
  return { (l.emit t).advance with keys := none :: l.keys, keyAllowed := true }

def closeFlow (l : Lexer) (t : Token) : Except Problem Lexer := do
  let l ← l.dropKey
  let keys := if l.inFlow then l.keys.tail else l.keys
  return { (l.emit t).advance with keys, keyAllowed := false }

def entry (l : Lexer) : Except Problem Lexer := do
  if !l.inFlow && !l.keyAllowed then throw .strayEntry
  let l ← (l.openBlock l.source.column l.tokens.size .blockSequenceStart).dropKey
  return { (l.emit .blockEntry).advance with keyAllowed := true }

def markedKey (l : Lexer) : Except Problem Lexer := do
  if !l.inFlow && !l.keyAllowed then throw .strayKey
  let l ← (l.openBlock l.source.column l.tokens.size .blockMappingStart).dropKey
  return { (l.emit .key).advance with keyAllowed := !l.inFlow }

/-- A colon: it makes a key of the possible key before it, if there is one. -/
def value (l : Lexer) : Except Problem Lexer :=
  match l.keys with
  | some k :: keys =>
    let l := { l with tokens := l.tokens.insertIdxIfInBounds k.tokenIndex .key }
    let l := l.openBlock k.column k.tokenIndex .blockMappingStart
    .ok { (l.emit .value).advance with keys := none :: keys, keyAllowed := false }
  | _ =>
    if !l.inFlow && !l.keyAllowed then .error .strayValue
    else
      let l := l.openBlock l.source.column l.tokens.size .blockMappingStart
      .ok { (l.emit .value).advance with keyAllowed := !l.inFlow }

def content (l : Lexer) (read : Source → Except Problem (Token × Source)) :
    Except Problem Lexer := do
  let l ← l.saveKey
  let (t, source) ← read l.source
  return { l.emit t with source, keyAllowed := false }

def plain (l : Lexer) : Except Problem Lexer := do
  let l ← l.saveKey
  let s := l.source
  let (text, broken, source) ← readPlain (l.indent + 1) l.inFlow (s.rest.length + 1) [] (.blanks []) s
  return { l.emit (.scalar text .plain) with source, keyAllowed := broken }

def block (l : Lexer) (folded : Bool) : Except Problem Lexer := do
  let l ← l.dropKey
  let (text, source) ← readBlock folded l.indent l.source.advance
  return { l.emit (.scalar text (if folded then .folded else .literal)) with source, keyAllowed := true }

def quoted (l : Lexer) (mark : Char) : Except Problem Lexer :=
  l.content fun s => do
    let (text, s) ← readQuoted mark (s.rest.length + 1) [] s.advance
    return (.scalar text .quoted, s)

def indicators : List Char :=
  ['-', '?', ':', ',', '[', ']', '\x7b', '\x7d', '#', '&', '*', '!', '|', '>', '\x27', '\x22', '%',
   '@', '\x60']

def token (l : Lexer) (c : Char) : Except Problem Lexer := do
  let s := l.source
  let next := s.peek? 1
  let flow := l.inFlow
  if s.column = 0 ∧ c = '%' then
    let l ← l.topLevel
    let (t, source) ← readDirective l.source
    return { l.emit t with source }
  if s.atMarker '-' then return ((← l.topLevel).emit .documentStart).advance 3
  if s.atMarker '.' then return ((← l.topLevel).emit .documentEnd).advance 3
  match c with
  | '[' => l.openFlow .flowSequenceStart
  | '\x7b' => l.openFlow .flowMappingStart
  | ']' => l.closeFlow .flowSequenceEnd
  | '\x7d' => l.closeFlow .flowMappingEnd
  | ',' => return { ((← l.dropKey).emit .flowEntry).advance with keyAllowed := true }
  | '*' => l.content fun s => do
    let (name, s) ← readName s.advance
    return (.alias name, s)
  | '&' => l.content fun s => do
    let (name, s) ← readName s.advance
    return (.anchor name, s)
  | '!' => l.content (readTag flow)
  | '\x27' | '\x22' => l.quoted c
  | _ =>
    if c = '-' ∧ blankOrEnd next then l.entry
    else if c = '?' ∧ (flow || blankOrEnd next) then l.markedKey
    else if c = ':' ∧ (flow || blankOrEnd next) then l.value
    else if c = '|' ∧ !flow then l.block false
    else if c = '>' ∧ !flow then l.block true
    else if !(isBlank c || indicators.contains c) || c == '-' || (!flow && (c == '?' || c == ':')) then
      l.plain
    else throw .strayCharacter

def readAll : Nat → Lexer → Except Problem (Array Token)
  | 0, l => .ok l.tokens
  | n + 1, l => do
    let l ← (skipToToken (l.source.rest.length + 1) l).dropStaleKeys
    match l.source.peek? with
    | none => return ((← l.topLevel).emit .streamEnd).tokens
    | some c => readAll n (← (l.close l.source.column).token c)

end Lexer

def tokens (text : String) : Except Problem (Array Token) :=
  let cs := text.toList
  if cs.all isAllowed then Lexer.readAll (cs.length + 1) { source := { rest := cs } }
  else .error .forbiddenCharacter

end ModalEditing.Yaml
