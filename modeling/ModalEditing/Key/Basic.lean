/-! Keys as a host reports them: a key code with the modifiers held down.
A character already carries its case, so SHIFT says nothing more about it and
`Key.normalize` drops it. `Input` is what reaches the editor: a key, or a
character that an input method composed. -/

namespace ModalEditing

inductive KeyCode where
  | char (c : Char)
  | esc
  | enter
  | backspace
  | tab
  /-- Stands for no key of a keyboard: extensions start the key lists of their handlers with it. -/
  | plug
deriving DecidableEq, Inhabited

structure Mods where
  shift : Bool := false
  ctrl : Bool := false
  alt : Bool := false
  command : Bool := false
deriving DecidableEq, Inhabited

namespace Mods

def isEmpty (m : Mods) : Bool := !(m.shift || m.ctrl || m.alt || m.command)

def isChord (m : Mods) : Bool := m.ctrl || m.alt || m.command

def union (m n : Mods) : Mods where
  shift := m.shift || n.shift
  ctrl := m.ctrl || n.ctrl
  alt := m.alt || n.alt
  command := m.command || n.command

instance : Union Mods := ⟨union⟩

theorem isEmpty_iff {m : Mods} : m.isEmpty = true ↔ m = {} := by
  obtain ⟨s, c, a, d⟩ := m
  cases s <;> cases c <;> cases a <;> cases d <;> simp [isEmpty]

end Mods

structure Key where
  code : KeyCode
  mods : Mods := {}
deriving DecidableEq, Inhabited

namespace Key

def plain (c : Char) : Key := { code := .char c }

def ctrl (c : Char) : Key := { code := .char c, mods := { ctrl := true } }

def esc : Key := { code := .esc }

/-- Drops SHIFT from a character key: the character already shows it. -/
def normalize (k : Key) : Key :=
  match k.code with
  | .char _ => { k with mods := { k.mods with shift := false } }
  | _ => k

def printable? (k : Key) : Option Char :=
  match k.code with
  | .char c => if k.mods.isChord then none else some c
  | _ => none

@[simp] theorem normalize_plain (c : Char) : (plain c).normalize = plain c := rfl

@[simp] theorem normalize_normalize (k : Key) : k.normalize.normalize = k.normalize := by
  obtain ⟨code, mods⟩ := k
  cases code <;> rfl

@[simp] theorem normalize_code (k : Key) : k.normalize.code = k.code := by
  obtain ⟨code, mods⟩ := k
  cases code <;> rfl

@[simp] theorem printable?_normalize (k : Key) : k.normalize.printable? = k.printable? := by
  obtain ⟨code, mods⟩ := k
  cases code <;> rfl

@[simp] theorem printable?_plain (c : Char) : (plain c).printable? = some c := rfl

def typing (s : String) : List Key := s.toList.map plain

def plugged (name : String) : List Key := { code := .plug } :: typing name

end Key

inductive Input where
  | key (k : Key)
  | text (c : Char)
deriving DecidableEq, Inhabited

def Input.toKey : Input → Key
  | .key k => k.normalize
  | .text c => Key.plain c

end ModalEditing
