import ModalEditing.Editor.Dispatch
import ModalEditing.Host.Buffer
import ModalEditing.Key.Notation

/-! A session: an editor with its keymap, and a host that keeps the text and the cursor. The
host applies the actions of each turn in order and then takes over the cursor. -/

namespace ModalEditing

structure Session where
  editor : Editor := {}
  keymap : Keymap := .ofMappings []
  text : Text := #[]
  cursor : Nat := 0

namespace Session

inductive Step where
  | keys (written : String)
  | key (k : Key)
  | text (s : String)
  | flush
  | abort
  | setText (s : String)
  | modes (s : ModeState.Step)

structure Report where
  input : Option Input
  actions : Array Action
  session : Session

def accept (s : Session) (r : Response) : Session :=
  { s with editor := r.editor, text := s.text.applyAll r.actions, cursor := r.cursor }

def call (s : Session) (c : Call) : Session × Array Action :=
  let r := s.editor.respond s.keymap s.text s.cursor c
  (s.accept r, r.actions)

def press (s : Session) (i : Input) : Session × Array Action := s.call (.input i)

def pressAll (s : Session) : List Input → Session × List Report
  | [] => (s, [])
  | i :: is =>
    let (s', actions) := s.press i
    let (last, reports) := s'.pressAll is
    (last, { input := some i, actions, session := s' } :: reports)

def quiet (s : Session) : Session × List Report :=
  (s, [{ input := none, actions := #[], session := s }])

def perform (s : Session) : Step → Except Fault (Session × List Report)
  | .keys written => do return s.pressAll ((← Key.readAll written).map Input.key)
  | .key k => .ok (s.pressAll [.key k])
  | .text cs => .ok (s.pressAll (cs.toList.map Input.text))
  | .flush =>
    let (s', actions) := s.call .flush
    .ok (s', [{ input := none, actions, session := s' }])
  | .abort => .ok (s.call .abort).1.quiet
  | .setText t => .ok { s with text := Text.ofString t }.quiet
  | .modes step =>
    let (modes, cursor) := s.editor.modes.perform s.text s.cursor step
    .ok { s with editor := { s.editor with modes }, cursor }.quiet

end Session

namespace Session.Report

def covered? (r : Report) : Option Span :=
  (r.session.editor.selection? r.session.cursor).map fun s => s.span r.session.text

def edited? (r : Report) : Option Text :=
  if r.actions.any Action.editsText then some r.session.text else none

end Session.Report

end ModalEditing
