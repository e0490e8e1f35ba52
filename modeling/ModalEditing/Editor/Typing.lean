import ModalEditing.Editor.Basic

/-! Keys that go into the text: typing in Insert and Replace mode, and typing over the
selection of Select mode. -/

namespace ModalEditing

def Key.typed? (k : Key) : Option Char :=
  match k.code with
  | .enter => some '\n'
  | .tab => some '\t'
  | _ => k.printable?

namespace Turn

/-- Puts a character in at the cursor. Replace mode types over what is there, but a newline
is always put in between. -/
def typeChar (t : Turn) (c : Char) : Turn :=
  let s := c.toString
  let t' :=
    if t.mode = .replace ∧ c ≠ '\n' then t.emit (.replaceText t.cursor s)
    else t.emit (.insertText t.cursor s)
  { t' with cursor := t.cursor + 1 }

def rubOut (t : Turn) : Turn :=
  if t.cursor = 0 then t
  else
    let p := t.cursor - 1
    let t' :=
      if t.mode = .replace then t
      else t.emit (.operate .delete { start := p, stop := t.cursor } .character 1 (some '_'))
    t'.moveTo p

def insertKey (t : Turn) (k : Key) : Turn :=
  match k.code with
  | .esc => t.transition .exit
  | .backspace => t.rubOut
  | _ =>
    match k.typed? with
    | some c => t.typeChar c
    | none => t.emit .bell

/-- Takes the selection out and goes on in Insert mode, with `c` typed in its place. -/
def replaceSelection (t : Turn) (text : Text) (c : Option Char) : Turn :=
  match t.selection? with
  | none => t
  | some s =>
    let span := s.span text
    let t' :=
      (((t.emit (.operate .delete span s.shape 1 none)).emit (.setSelection none)).transition
        .enterInsert).moveTo span.start
    match c with
    | some c =>
      { t'.emit (.insertText span.start c.toString) with cursor := span.start + 1 }
    | none => t'

def selectKey (t : Turn) (text : Text) (k : Key) : Turn :=
  match k.code with
  | .backspace => t.replaceSelection text none
  | _ =>
    match k.typed? with
    | some c => t.replaceSelection text (some c)
    | none => t.emit .bell

end Turn

end ModalEditing
