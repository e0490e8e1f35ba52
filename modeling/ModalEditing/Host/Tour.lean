import ModalEditing.Host.Session
import ModalEditing.Inspect
import ModalEditing.Settings

/-! A tour of the indentation objects on a short text, without a screen. The host of the tour
deletes, changes and inserts; it leaves typing over and the registers alone. -/

namespace ModalEditing

def Text.find? (t : Text) (s : String) : Option Nat :=
  (List.range (t.size + 1)).find? fun p => s.toList.isPrefixOf (t.toList.drop p)

namespace Tour

def settingsText : String :=
  "\n".intercalate
    ["",
     "extensions:",
     "  - textobj-indent",
     "mappings:",
     "  - mode: n",
     "    from: \"<Space>v\"",
     "    to: \"vai\"",
     ""]

def snippet : String :=
  "\n".intercalate
    ["def outer():",
     "    x = 1",
     "    if x:",
     "        y = 2",
     "",
     "        z = 3",
     "    return x",
     ""]

def apply (t : Text) : Action → Text
  | .operate o span _ _ _ => if o.removes then t.removeSpan span else t
  | .insertText p s => t.insertClamped p s
  | .replaceText .. | .setCursor _ | .setSelection _ | .bell => t

def press (s : Session) (k : Key) : Session × List Action :=
  let r := s.editor.handle s.keymap s.text s.cursor (.key k)
  ({ s with editor := r.editor, text := r.actions.foldl apply s.text, cursor := r.cursor },
    r.actions.toList)

def pressAll (s : Session) : List Key → Session × List Action
  | [] => (s, [])
  | k :: ks =>
    let (s, actions) := press s k
    let (last, more) := pressAll s ks
    (last, actions ++ more)

def run (s : Session) (written : String) : Except Fault (Session × List Action) := do
  return pressAll s (← Key.readAll written)

def selected? (s : Session) : Option (Span × Text) :=
  (s.editor.selection? s.cursor).map fun selection =>
    let span := selection.span s.text
    (span, s.text.slice span.start span.stop)

def start (settings text : String) (cursor : Nat) : Except Fault Session := do
  let settings ← Settings.ofText settings
  return { editor := settings.editor, keymap := ← settings.keymap, text := Text.ofString text, cursor }

def printed (s : String) : List String := s.splitOn "\n"

def heading (s : Session) (written : String) : String :=
  "".pushn ' ' (9 - written.length) ++ written ++ " -> " ++ s.editor.modes.mode.caption

def showObject (s : Session) (written : String) : Except Fault (List String) := do
  let (s, _) ← run s written
  match selected? s with
  | some (span, t) => return (heading s written ++ " " ++ span.inspect) :: printed t.toString
  | none => return []

def showActions (s : Session) (written : String) : Except Fault (Session × String) := do
  let (s, actions) ← run s written
  return (s, heading s written ++ " cursor " ++ Nat.repr s.cursor ++
    " [" ++ ", ".intercalate (actions.map Action.inspect) ++ "]")

def showEach (s : Session) : List String → Except Fault (List String)
  | [] => return []
  | w :: ws => do
    let (s, line) ← showActions s w
    return line :: (← showEach s ws)

def lines : Except Fault (List String) := do
  let text := Text.ofString snippet
  let s ← start settingsText snippet ((text.find? "y = 2").getD 0)
  let objects ← ["vii", "vai", "vaI", "<Space>v"].mapM (showObject s)
  let selects ← showEach s ["gh", "<C-g>", "<C-g>"]
  let (after, _) ← run s "dii"
  return objects.flatten ++ selects ++ "after dii:" :: printed after.text.toString

end Tour

end ModalEditing
