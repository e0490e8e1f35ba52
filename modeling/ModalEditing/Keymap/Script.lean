import ModalEditing.Inspect
import ModalEditing.Keymap.Handler

/-! Scripts: extension commands made of a few steps, without code of their own. -/

namespace ModalEditing

inductive ScriptStep where
  | modes (s : ModeState.Step)
  | moveToCount
  | showSelection
  | bell
  | describe
  | report
deriving DecidableEq

namespace CommandScope

def emit (s : CommandScope) (a : Action) : CommandScope := { s with actions := s.actions.push a }

def inspect (s : CommandScope) : String :=
  Inspect.record "CommandContext"
    [("mode", s.modes.mode.inspect), ("cursor", Nat.repr s.cursor), ("count", Nat.repr s.count),
     ("register", Inspect.option (s.register.map Quoted.char))]
    ", .."

def summary (s : CommandScope) (t : Text) : String :=
  ":".intercalate
    [Nat.repr s.count, (s.register.map Char.toString).getD "none", s.modes.mode.path,
     Nat.repr t.size]

def perform (t : Text) (s : CommandScope) : ScriptStep → CommandScope
  | .modes step =>
    let (modes, cursor) := s.modes.perform t s.cursor step
    { s with modes, cursor }
  | .moveToCount => { s with cursor := s.count }
  | .showSelection => s.emit (.setSelection (s.modes.selection? s.cursor))
  | .bell => s.emit .bell
  | .describe => s.emit (.insertText s.cursor s.inspect)
  | .report => s.emit (.insertText s.cursor (s.summary t))

end CommandScope

def ExtensionCommand.ofScript (steps : List ScriptStep) : ExtensionCommand :=
  fun t s => steps.foldl (CommandScope.perform t) s

end ModalEditing
