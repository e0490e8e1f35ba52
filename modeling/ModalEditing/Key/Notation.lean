import ModalEditing.Fault
import ModalEditing.Key.Basic

/-! Written keys. A character stands for itself; a key without a character, and a
chord, has a name in angle brackets: `<Esc>`, `<C-v>`, `<Plug>`. An angle bracket
that no later bracket closes, or that is closed at once, is a character.
`Key.readAll` reads a key list and `Key.writeAll` writes one. -/

namespace ModalEditing

def lowerAscii (c : Char) : Char := if 'A' ≤ c ∧ c ≤ 'Z' then Char.ofNat (c.toNat + 32) else c

def Mods.ofLetter? (c : Char) : Option Mods :=
  match lowerAscii c with
  | 'c' => some { ctrl := true }
  | 's' => some { shift := true }
  | 'a' | 'm' => some { alt := true }
  | 'd' => some { command := true }
  | _ => none

def Mods.ofLetters? : List Char → Option Mods
  | [c] => Mods.ofLetter? c
  | c :: '-' :: rest => do return (← Mods.ofLetter? c) ∪ (← Mods.ofLetters? rest)
  | _ => none

namespace Key

def named : List (String × Key) :=
  [("esc", esc), ("cr", { code := .enter }), ("enter", { code := .enter }),
   ("return", { code := .enter }), ("bs", { code := .backspace }),
   ("backspace", { code := .backspace }), ("tab", { code := .tab }), ("plug", { code := .plug }),
   ("space", plain ' '), ("lt", plain '<'), ("bslash", plain '\\'), ("bar", plain '|')]

/-- A chord: modifier letters, a dash and one character, which may be the dash.
CTRL does not tell capital letters from small ones. -/
def ofChord? (name : List Char) : Option Key :=
  match name.reverse with
  | c :: '-' :: chord => do
    let mods ← Mods.ofLetters? chord.reverse
    return Key.normalize { code := .char (if mods.ctrl then lowerAscii c else c), mods }
  | _ => none

def ofName? (name : List Char) : Option Key :=
  match named.lookup (String.ofList (name.map lowerAscii)) with
  | some k => some k
  | none => ofChord? name

def bracketed? (cs : List Char) : Option (List Char × List Char) :=
  match cs.takeWhile (· != '>'), cs.dropWhile (· != '>') with
  | name@(_ :: _), _ :: rest => some (name, rest)
  | _, _ => none

theorem length_of_bracketed? {cs name rest : List Char} (h : bracketed? cs = some (name, rest)) :
    rest.length < cs.length := by
  have le := (List.dropWhile_sublist (l := cs) (· != '>')).length_le
  unfold bracketed? at h
  split at h
  · next closed =>
    obtain rfl := (Prod.mk.inj (Option.some.inj h)).2
    rw [closed, List.length_cons] at le
    omega
  · contradiction

def readChars : List Char → Except Fault (List Key)
  | [] => .ok []
  | c :: cs =>
    match _h : if c = '<' then bracketed? cs else none with
    | none => do return plain c :: (← readChars cs)
    | some (name, rest) =>
      match ofName? name with
      | none => .error (.keyName ("<" ++ String.ofList name ++ ">"))
      | some k => do return k :: (← readChars rest)
termination_by cs => cs.length
decreasing_by
  · simp
  · split at _h
    · have := length_of_bracketed? _h
      simp; omega
    · contradiction

def readAll (s : String) : Except Fault (List Key) := readChars s.toList

end Key

def Mods.write (m : Mods) : List Char :=
  (if m.ctrl then ['C', '-'] else []) ++ (if m.alt then ['A', '-'] else []) ++
  (if m.command then ['D', '-'] else []) ++ (if m.shift then ['S', '-'] else [])

namespace Key

def name (k : Key) : List Char :=
  match k.code with
  | .char c => [c]
  | .esc => ['E', 's', 'c']
  | .enter => ['C', 'R']
  | .backspace => ['B', 'S']
  | .tab => ['T', 'a', 'b']
  | .plug => ['P', 'l', 'u', 'g']

def inBrackets (name : List Char) : List Char := '<' :: name ++ ['>']

/-- A bare character is written as itself, if a reader can tell it from a bracket or a blank. -/
def writeChars (k : Key) : List Char :=
  match k.code, k.mods.isEmpty with
  | .char '<', true => inBrackets ['l', 't']
  | .char ' ', true => inBrackets ['S', 'p', 'a', 'c', 'e']
  | .char c, true => [c]
  | _, _ => inBrackets (k.mods.write ++ k.name)

def write (k : Key) : String := String.ofList k.writeChars

def writeAll (ks : List Key) : String := String.ofList (ks.flatMap writeChars)

end Key

end ModalEditing
