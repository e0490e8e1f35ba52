/-! The text of a settings file while it is read: what is left of it, and where the
reader stands. Also the characters that YAML tells apart. -/

namespace ModalEditing.Yaml

inductive Problem where
  | forbiddenCharacter
  | strayCharacter
  | strayColon
  | strayTab
  | strayMarker
  | strayEntry
  | strayKey
  | strayValue
  | missingColon
  | unclosedQuotes
  | badEscape
  | badBlockHeader
  | badName
  | badTag
  | badDirective
  | unknownAlias
  | expectedNode
  | expectedEntry
  | expectedKey
  | expectedEnd
deriving DecidableEq, Inhabited

def Problem.message : Problem → String
  | forbiddenCharacter => "control characters are not allowed"
  | strayCharacter => "found a character that cannot start any token"
  | strayColon => "found an unexpected colon"
  | strayTab => "found a tab in the indentation"
  | strayMarker => "found an unexpected document marker"
  | strayEntry => "sequence entries are not allowed here"
  | strayKey => "mapping keys are not allowed here"
  | strayValue => "mapping values are not allowed here"
  | missingColon => "could not find the colon of a key"
  | unclosedQuotes => "found the end of the text within quotes"
  | badEscape => "found an unknown escape"
  | badBlockHeader => "found a malformed block scalar header"
  | badName => "found a malformed anchor or alias"
  | badTag => "found a malformed tag"
  | badDirective => "found a malformed directive"
  | unknownAlias => "found an unknown anchor"
  | expectedNode => "did not find expected node content"
  | expectedEntry => "did not find an expected entry"
  | expectedKey => "did not find an expected key"
  | expectedEnd => "did not find the end of the document"

def isBlank (c : Char) : Bool := c == ' ' || c == '\t'

def isBreak (c : Char) : Bool :=
  c == '\n' || c == '\r' || c == '\u0085' || c == '\u2028' || c == '\u2029'

def isNameChar (c : Char) : Bool := c.isAlphanum || c == '_' || c == '-'

def blankOrEnd (c : Option Char) : Bool := c.all fun c => isBlank c || isBreak c

def breakOrEnd (c : Option Char) : Bool := c.all isBreak

def isAllowed (c : Char) : Bool :=
  c == '\t' || c == '\n' || c == '\r' || (' ' ≤ c && c ≤ '~') || c == '\u0085'
    || ('\u00a0' ≤ c && c ≤ '\ufffd') || '\uffff' < c

def breakText (c : Char) : List Char :=
  if c = '\u2028' ∨ c = '\u2029' then [c] else ['\n']

structure Source where
  rest : List Char
  line : Nat := 0
  column : Nat := 0
  index : Nat := 0

namespace Source

def peek? (s : Source) (n : Nat := 0) : Option Char := s.rest[n]?

def advance (s : Source) (n : Nat := 1) : Source :=
  { s with rest := s.rest.drop n, column := s.column + n, index := s.index + n }

def advanceLine (s : Source) : Source :=
  let n := match s.rest with
    | '\r' :: '\n' :: _ => 2
    | _ => 1
  { rest := s.rest.drop n, line := s.line + 1, column := 0, index := s.index + n }

def skipWhile (p : Char → Bool) (s : Source) : Source := s.advance (s.rest.takeWhile p).length

/-- A document marker made of three characters `c` stands at the start of the line. -/
def atMarker (s : Source) (c : Char) : Bool :=
  s.column == 0 && s.rest.take 3 == [c, c, c] && blankOrEnd (s.peek? 3)

def atAnyMarker (s : Source) : Bool := s.atMarker '-' || s.atMarker '.'

end Source

end ModalEditing.Yaml
