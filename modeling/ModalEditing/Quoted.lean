import ModalEditing.Unicode.Printable

/-! Quoted text: a text or a character between quote marks, as messages show it.
The enclosing mark, the backslash and the usual controls have short escapes; a
combining, unprintable or invisible character is written by its code point in
hexadecimal. -/

namespace ModalEditing.Quoted

def codePoint (c : Char) : List Char :=
  ['\\', 'u', '\x7b'] ++ Nat.toDigits 16 c.toNat ++ ['\x7d']

def isShown (c : Char) : Bool :=
  c ∉ Unicode.combining ∧ c ∉ Unicode.unprintable ∧ c ∉ Unicode.defaultIgnorable

def escape (mark c : Char) : List Char :=
  if c = mark then ['\\', c]
  else match c with
    | '\x00' => ['\\', '0']
    | '\t' => ['\\', 't']
    | '\r' => ['\\', 'r']
    | '\n' => ['\\', 'n']
    | '\\' => ['\\', '\\']
    | c => if isShown c then [c] else codePoint c

def between (mark : Char) (cs : List Char) : String :=
  String.ofList (mark :: cs.flatMap (escape mark) ++ [mark])

def text (s : String) : String := between '\x22' s.toList

def char (c : Char) : String := between '\x27' [c]

end ModalEditing.Quoted
