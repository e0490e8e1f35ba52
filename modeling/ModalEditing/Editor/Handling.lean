import ModalEditing.Editor.Basic

/-! Running a handler. A motion or text object moves the cursor or, while an operator
waits, completes its command; an operator waits for an argument or takes the selection. -/

namespace ModalEditing

namespace Turn

def takeCounted (t : Turn) : Option Nat × Option Char × Turn :=
  (t.command.totalCount, t.command.register, { t with command := {} })

def leaveAfter (t : Turn) (o : Operator) : Turn :=
  t.transition (if o = .change then .enterInsert else .exit)

def operateOnSelection (t : Turn) (text : Text) (o : Operator) : Turn :=
  let (count, register, t) := t.takeCounted
  match t.selection? with
  | none => t.fail
  | some s =>
    let span := s.span text
    let t := t.emit (.operate o span s.shape (max (count.getD 1) 1) register)
    let t := (t.emit (.setSelection none)).leaveAfter o
    { t with column := none }.moveTo span.start

/-- Changing to the next word, from a character that is no white space, means to the end of
the word. -/
def effectiveArgument (o : Operator) (a : Argument) (text : Text) (cursor : Nat) : Argument :=
  match a with
  | .motion .wordForward =>
    if o = .change ∧ text.classAt? cursor ≠ none ∧ text.classAt? cursor ≠ some .space then
      .motion .wordEnd
    else a
  | _ => a

def runCommand (t : Turn) (text : Text) (c : Command) : Turn :=
  match c.operator with
  | none => t.fail
  | some o =>
    let a := effectiveArgument o c.argument text t.cursor
    match a.span? text t.cursor (c.context t.column) with
    | none => t.fail
    | some span =>
      let shape : Shape := if span.lineWise then .line else .character
      let t := (t.emit (.operate o span shape c.count c.register)).leaveAfter o
      { t with column := none }.moveTo span.start

def operator (t : Turn) (text : Text) (o : Operator) : Turn :=
  match t.mode with
  | .visual .. => t.operateOnSelection text o
  | .normal | .operatorPending _ =>
    match t.command.enterOperator o with
    | .ok (.waiting b) => { t with command := b }.transition .enterOperatorPending
    | .ok (.complete c) => { t with command := {} }.runCommand text c
    | .error _ => t.fail
  | _ => t.fail

def columnAfter (t : Turn) (text : Text) (m : Motion) : Option Column :=
  match m with
  | .up | .down => some (t.column.getD (.offset (t.cursor - text.lineStart t.cursor)))
  | .lineEnd => some .last
  | _ => none

def moveBy (t : Turn) (text : Text) (m : Motion) (typed : Option Nat) : Turn :=
  let column := if m.isVertical then t.column else none
  match m.target? text t.cursor { count := max (typed.getD 1) 1, typed, column } with
  | none => t.emit .bell
  | some target => { t with column := t.columnAfter text m }.moveTo target

/-- Visual takes in the text object; other modes go to its start. -/
def goTo (t : Turn) (o : TextObject) (span : Span) : Turn :=
  let t' :=
    match t.mode with
    | .visual shape _ _ =>
      { t with modes := t.modes.setSelection span.start (o.shapeFor shape) }.moveTo
        (max (span.stop - 1) span.start)
    | _ => t.moveTo span.start
  { t' with column := none }

/-- After a move of the cursor: a single Visual command is over, and the host is shown the
selection. -/
def finishMove (t : Turn) (text : Text) : Turn :=
  let t := t.withModes (t.modes.finishCommand text t.cursor)
  if t.mode.hasSelection then t.showSelection else t

def argument (t : Turn) (text : Text) (a : Argument) : Turn :=
  if t.mode.isOperatorPending then
    { t with command := {} }.runCommand text (t.command.complete a)
  else
    let (typed, _, t) := t.takeCounted
    match a with
    | .motion m => (t.moveBy text m typed).finishMove text
    | .wholeLines => t.finishMove text
    | .textObject o =>
      match o.find? text t.cursor (max (typed.getD 1) 1) with
      | none => t.emit .bell
      | some span => (t.goTo o (span.clamp text.size)).finishMove text

def runEditCommand (t : Turn) (text : Text) (c : EditCommand) : Turn :=
  let p := t.cursor
  match c with
  | .enterInsert => t.transition .enterInsert
  | .append =>
    (t.transition .enterInsert).moveTo (max (min (p + 1) (text.contentStop p)) p)
  | .insertAtLineStart =>
    (t.transition .enterInsert).moveTo (text.firstNonBlank (text.lineStart p))
  | .appendAtLineEnd => (t.transition .enterInsert).moveTo (text.contentStop p)
  | .enterReplace => t.transition .enterReplace
  | .toggleVisual shape => { t with modes := t.modes.toggleVisual shape p }.showSelection
  | .enterSelect shape =>
    let t := { t with modes := t.modes.enterSelect shape p }
    -- Select leaves its far end out, so the far end goes past the character under the cursor
    if shape ≠ .line ∧ p < text.contentStop p then (t.moveTo (p + 1)).showSelection
    else t.showSelection
  | .toggleSelectVisual => (t.withModes (t.modes.toggleSelectVisual text p)).showSelection
  | .singleVisualCommand => (t.withModes (t.modes.singleVisualCommand text p)).showSelection
  | .swapEnds =>
    let (modes, head) := t.modes.swapEnds p
    ({ t with modes }.moveTo head).showSelection

def editCommand (t : Turn) (text : Text) (c : EditCommand) : Turn :=
  let t := { t with command := {} }.runEditCommand text c
  if c = .swapEnds then t else { t with column := none }

def extensionCommand (t : Turn) (text : Text) (run : ExtensionCommand) : Turn :=
  let (count, register, t) := t.takeCounted
  let scope := run text
    { modes := t.modes, cursor := t.cursor, count := max (count.getD 1) 1, register }
  let t := { t with modes := scope.modes, actions := t.actions ++ scope.actions }
  { t.settleAt (min scope.cursor text.size) with column := none }

def run (t : Turn) (text : Text) (h : Handler) : Turn :=
  match h with
  | .motion m => t.argument text (.motion m)
  | .textObject o => t.argument text (.textObject o)
  | .operator o => t.operator text o
  | .command c => t.editCommand text c
  | .extension f => t.extensionCommand text f

end Turn

end ModalEditing
