import ModalEditing.Host.Session
import ModalEditing.Quoted
import ModalEditing.Settings
import ModalEditing.Text.Row

/-! An application on a terminal, without its drawing: a text with one register, the
selection to show, and a line with the mode, the bell, waiting keys and the register. -/

namespace ModalEditing

structure TerminalEvent where
  code : Option KeyCode
  mods : Mods := {}
deriving DecidableEq

namespace TerminalEvent

def toKey? (e : TerminalEvent) : Option Key :=
  e.code.map fun code => Key.normalize { code, mods := { e.mods with command := false } }

/-- The event that a key comes from. No terminal sends the key of extensions. -/
def ofKey (k : Key) : TerminalEvent where
  code := if k.code = .plug then none else some k.code
  mods := k.mods

def quits (e : TerminalEvent) : Bool := e.code == some (.char 'q') && e.mods.ctrl

end TerminalEvent

namespace Text

def shiftWidth : Nat := 4

def indentRow (t : Text) (p : Nat) : Text := t.insertAt p ("".pushn ' ' shiftWidth)

def outdentRow (t : Text) (p : Nat) : Text :=
  let spaces := (t.slice p (p + shiftWidth)).toList.takeWhile (· == ' ')
  t.remove p (p + spaces.length)

def changeRows (change : Text → Nat → Text) (t : Text) (r : Span) : Text :=
  (t.rowStarts r.start (max (r.stop - 1) r.start)).foldr (fun p t => change t p) t

end Text

structure Terminal extends Session where
  register : Option String := none
  selection : Option Selection := none
  message : String := "NORMAL"
  quit : Bool := false

namespace Terminal

def welcome : String :=
  "\n".intercalate
    ["Welcome to vim_modal!",
     "",
     "fn indent_objects() \x7b",
     "    if nested \x7b",
     "        put the cursor here and try vii, dai or yaI",
     "        then <C-g> to swap between Visual and Select",
     "    \x7d",
     "",
     "    gh starts Select mode, typing replaces the selection",
     "\x7d",
     "",
     "Press Ctrl-Q to quit.",
     ""]

def standardSettings : String := "extensions: [textobj-indent]"

def start (settings : Settings) : Except Fault Terminal := do
  return { editor := settings.editor, keymap := ← settings.keymap, text := Text.ofString welcome }

/-- Does what an operator asks for. What is deleted or changed goes to the register, except
under the name of the register that keeps nothing. -/
def operate (t : Terminal) (o : Operator) (r : Span) (register : Option Char) : Terminal :=
  let taken := (t.text.slice r.start r.stop).toString
  match o with
  | .delete | .change =>
    { t with text := t.text.removeSpan r
             register := if register = some '_' then t.register else some taken }
  | .yank => { t with register := some taken }
  | .shiftRight => { t with text := t.text.changeRows Text.indentRow r }
  | .shiftLeft => { t with text := t.text.changeRows Text.outdentRow r }

def perform (t : Terminal) : Action → Terminal
  | .operate o r _ _ register => t.operate o r register
  | .insertText p s => { t with text := t.text.insertClamped p s }
  | .replaceText p s => { t with text := t.text.typeOver p s }
  | .setSelection s => { t with selection := s }
  | .setCursor _ | .bell => t

def status (t : Terminal) (bell : Bool) : String :=
  let mode := t.editor.modes.mode.caption
  let keys := Key.writeAll t.editor.waitingKeys
  let after := if bell then " (bell)" else if keys = "" then "" else "  " ++ keys
  let register := (t.register.map fun s =>
    "  register: " ++ Quoted.text (String.ofList (s.toList.take 24))).getD ""
  mode ++ after ++ register

def press (t : Terminal) (k : Key) : Terminal :=
  let r := t.editor.handle t.keymap t.text t.cursor (.key k)
  let t := r.actions.foldl perform { t with editor := r.editor }
  { t with cursor := min r.cursor t.text.size, message := t.status (r.actions.contains .bell) }

def handle (t : Terminal) (e : TerminalEvent) : Terminal :=
  if e.quits then { t with quit := true }
  else match e.toKey? with
    | some k => t.press k
    | none => t

end Terminal

end ModalEditing
