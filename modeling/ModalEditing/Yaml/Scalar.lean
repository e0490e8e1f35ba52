import ModalEditing.Yaml.Source

/-! Scalars: plain, in quotes, or as an indented block. Line breaks within a scalar fold:
a single one becomes a space, and of several the first one is dropped. Every reader here has
an upper bound on its steps for its first argument; the length of the text is enough. -/

namespace ModalEditing.Yaml

inductive ScalarStyle where
  | plain
  | quoted
  | literal
  | folded
deriving DecidableEq, Inhabited

inductive Gap where
  | blanks (cs : List Char)
  | breaks (first more : List Char)

namespace Gap

def text : Gap → List Char
  | blanks cs => cs.reverse
  | breaks first more =>
    if first = ['\n'] then (if more = [] then [' '] else more) else first ++ more

def addBreak (g : Gap) (b : List Char) : Gap :=
  match g with
  | blanks _ => breaks b []
  | breaks first more => breaks first (more ++ b)

def isBroken : Gap → Bool
  | blanks _ => false
  | breaks _ _ => true

end Gap

def readGap (guarded : Nat → Bool) : Nat → Gap → Source → Except Problem (Gap × Source)
  | 0, g, s => .ok (g, s)
  | n + 1, g, s =>
    match s.rest with
    | [] => .ok (g, s)
    | c :: _ =>
      if isBlank c then
        match g with
        | .blanks cs => readGap guarded n (.blanks (c :: cs)) s.advance
        | .breaks .. =>
          if c = '\t' ∧ guarded s.column then .error .strayTab
          else readGap guarded n g s.advance
      else if isBreak c then readGap guarded n (g.addBreak (breakText c)) s.advanceLine
      else .ok (g, s)

def readWord (flow : Bool) : Nat → List Char → Source → Except Problem (List Char × Source)
  | 0, out, s => .ok (out, s)
  | n + 1, out, s =>
    match s.rest with
    | [] => .ok (out, s)
    | c :: rest =>
      if isBlank c || isBreak c then .ok (out, s)
      else if c = ':' ∧ flow ∧ rest.head?.any [',', '?', '[', ']', '\x7b', '\x7d'].contains then
        .error .strayColon
      else if c = ':' ∧ blankOrEnd rest.head? then .ok (out, s)
      else if flow ∧ [',', '[', ']', '\x7b', '\x7d'].contains c then .ok (out, s)
      else readWord flow n (c :: out) s.advance

/-- Reads a plain scalar, which has to stay in the column `indent` or right of it. Also tells
whether it ended with a line. -/
def readPlain (indent : Int) (flow : Bool) :
    Nat → List Char → Gap → Source → Except Problem (String × Bool × Source)
  | 0, out, g, s => .ok (String.ofList out.reverse, g.isBroken, s)
  | n + 1, out, g, s => do
    if s.atAnyMarker || s.peek? == some '#' then
      return (String.ofList out.reverse, g.isBroken, s)
    let (word, s) ← readWord flow s.rest.length [] s
    let (out, g) := if word = [] then (out, g) else (word ++ g.text.reverse ++ out, .blanks [])
    if s.rest = [] || !blankOrEnd s.peek? then
      return (String.ofList out.reverse, g.isBroken, s)
    let (g, s) ← readGap (fun column => (column : Int) < indent) s.rest.length g s
    if !flow && (s.column : Int) < indent then return (String.ofList out.reverse, g.isBroken, s)
    readPlain indent flow n out g s

def hexDigit? (c : Char) : Option Nat :=
  if '0' ≤ c ∧ c ≤ '9' then some (c.toNat - '0'.toNat)
  else if 'a' ≤ c ∧ c ≤ 'f' then some (c.toNat - 'a'.toNat + 10)
  else if 'A' ≤ c ∧ c ≤ 'F' then some (c.toNat - 'A'.toNat + 10)
  else none

def codePoint? (n : Nat) (cs : List Char) : Option Char := do
  let digits ← (cs.take n).mapM hexDigit?
  let value := digits.foldl (fun v d => 16 * v + d) 0
  if digits.length = n ∧ value.isValidChar then some (Char.ofNat value) else none

def escape? : Char → Option (Char ⊕ Nat)
  | '0' => some (.inl '\x00')
  | 'a' => some (.inl '\x07')
  | 'b' => some (.inl '\x08')
  | 't' | '\t' => some (.inl '\t')
  | 'n' => some (.inl '\n')
  | 'v' => some (.inl '\x0b')
  | 'f' => some (.inl '\x0c')
  | 'r' => some (.inl '\r')
  | 'e' => some (.inl '\x1b')
  | ' ' => some (.inl ' ')
  | '\x22' => some (.inl '\x22')
  | '/' => some (.inl '/')
  | '\\' => some (.inl '\\')
  | 'N' => some (.inl '\u0085')
  | '_' => some (.inl '\u00a0')
  | 'L' => some (.inl '\u2028')
  | 'P' => some (.inl '\u2029')
  | 'x' => some (.inr 2)
  | 'u' => some (.inr 4)
  | 'U' => some (.inr 8)
  | _ => none

/-- Reads quoted characters up to a blank, a line break, the closing mark or the end. Also
tells whether it went over an escaped line break last. -/
def readQuotedWord (mark : Char) :
    Nat → List Char → Source → Except Problem (List Char × Bool × Source)
  | 0, out, s => .ok (out, false, s)
  | n + 1, out, s =>
    match s.rest with
    | [] => .ok (out, false, s)
    | c :: rest =>
      if isBlank c || isBreak c then .ok (out, false, s)
      else if c = mark then
        if mark = '\x27' ∧ rest.head? = some mark then
          readQuotedWord mark n (mark :: out) (s.advance 2)
        else .ok (out, false, s)
      else if c = '\\' ∧ mark = '\x22' then
        match rest with
        | [] => .error .badEscape
        | e :: rest =>
          if isBreak e then .ok (out, true, s.advance.advanceLine)
          else match escape? e with
            | none => .error .badEscape
            | some (.inl c) => readQuotedWord mark n (c :: out) (s.advance 2)
            | some (.inr k) =>
              match codePoint? k rest with
              | none => .error .badEscape
              | some c => readQuotedWord mark n (c :: out) (s.advance (2 + k))
      else readQuotedWord mark n (c :: out) s.advance

def readQuoted (mark : Char) : Nat → List Char → Source → Except Problem (String × Source)
  | 0, _, _ => .error .unclosedQuotes
  | n + 1, out, s => do
    if s.atAnyMarker then throw .strayMarker
    if s.rest = [] then throw .unclosedQuotes
    let (out, escaped, s) ← readQuotedWord mark s.rest.length out s
    if s.peek? == some mark then return (String.ofList out.reverse, s.advance)
    let start : Gap := if escaped then .breaks [] [] else .blanks []
    let (g, s) ← readGap (fun _ => false) s.rest.length start s
    readQuoted mark n (g.text.reverse ++ out) s

inductive Chomping where
  | strip
  | clip
  | keep
deriving DecidableEq

structure BlockHeader where
  chomping : Chomping := .clip
  increment : Option Nat := none

def chomping? : Option Char → Option Chomping
  | some '+' => some .keep
  | some '-' => some .strip
  | _ => none

def increment? (c : Option Char) : Except Problem (Option Nat) :=
  match c.bind fun c => if c.isDigit then some (c.toNat - '0'.toNat) else none with
  | some 0 => .error .badBlockHeader
  | d => .ok d

def readBlockHeader (s : Source) : Except Problem (BlockHeader × Source) := do
  match chomping? s.peek? with
  | some chomping =>
    let s := s.advance
    match ← increment? s.peek? with
    | some d => return ({ chomping, increment := some d }, s.advance)
    | none => return ({ chomping }, s)
  | none =>
    match ← increment? s.peek? with
    | some d =>
      let s := s.advance
      match chomping? s.peek? with
      | some chomping => return ({ chomping, increment := some d }, s.advance)
      | none => return ({ increment := some d }, s)
    | none => return ({}, s)

/-- Reads indentation and empty lines. Until `indent` is known it is zero, and every space
counts as indentation. Also tells the widest indentation seen. -/
def readBlockBreaks (indent : Nat) :
    Nat → Nat → List Char → Source → Except Problem (Nat × List Char × Source)
  | 0, widest, out, s => .ok (widest, out, s)
  | n + 1, widest, out, s =>
    let room := if indent = 0 then s.rest.length else indent - s.column
    let s := s.advance (min room (s.rest.takeWhile (· == ' ')).length)
    let widest := max widest s.column
    if s.peek? = some '\t' ∧ (indent = 0 ∨ s.column < indent) then .error .strayTab
    else match s.rest with
      | c :: _ =>
        if isBreak c then readBlockBreaks indent n widest (out ++ breakText c) s.advanceLine
        else .ok (widest, out, s)
      | [] => .ok (widest, out, s)

/-- Reads the lines of a block. `lead` is the break before the line at hand, `more` the empty
lines after it. -/
def readBlockLines (folded : Bool) (chomping : Chomping) (indent : Nat) :
    Nat → List Char → List Char → List Char → Bool → Source → Except Problem (String × Source)
  | 0, out, _, _, _, s => .ok (String.ofList out, s)
  | n + 1, out, lead, more, afterBlank, s => do
    if s.column != indent || s.rest = [] then
      let tail := match chomping with
        | .strip => []
        | .clip => lead
        | .keep => lead ++ more
      return (String.ofList (out ++ tail), s)
    let startsBlank := s.peek?.any isBlank
    let joint :=
      if folded ∧ lead = ['\n'] ∧ !afterBlank ∧ !startsBlank then
        (if more = [] then [' '] else []) ++ more
      else lead ++ more
    let line := s.rest.takeWhile fun c => !isBreak c
    let s := s.advance line.length
    let lead := (s.peek?.map breakText).getD []
    let s := if s.rest = [] then s else s.advanceLine
    let (_, more, s) ← readBlockBreaks indent s.rest.length 0 [] s
    readBlockLines folded chomping indent n (out ++ joint ++ line) lead more startsBlank s

/-- Reads a block scalar after its bar or angle, within a collection in the column `outer`. -/
def readBlock (folded : Bool) (outer : Int) (s : Source) : Except Problem (String × Source) := do
  let (header, s) ← readBlockHeader s
  let s := s.skipWhile isBlank
  let s := if s.peek? == some '#' then s.skipWhile fun c => !isBreak c else s
  if !breakOrEnd s.peek? then throw .badBlockHeader
  let s := if s.rest = [] then s else s.advanceLine
  let given := (header.increment.map fun d => (max outer 0).toNat + d).getD 0
  let (widest, more, s) ← readBlockBreaks given (s.rest.length + 1) 0 [] s
  let indent := if given = 0 then max (max widest (outer + 1).toNat) 1 else given
  readBlockLines folded header.chomping indent (s.rest.length + 1) [] [] more false s

end ModalEditing.Yaml
