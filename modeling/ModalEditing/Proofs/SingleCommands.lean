import ModalEditing.Proofs.SelectedObjects

/-! Single Visual commands. Select lends its selection to Visual for one command: a motion or text
object hands it back, whether or not the motion can move, and an operator uses it up. A text object
that is not found only rings the bell, so that the single command is still to come. -/

namespace ModalEditing

def Handler.isCommandPart : Handler → Bool
  | motion _ | textObject _ | operator _ => true
  | command _ | extension _ => false

/-- The handler ends a single Visual command, and leads to the mode. -/
inductive Handler.Ends (shape : Shape) (next : LastingMode) : Handler → Mode → Prop where
  | motion (m : Motion) : Ends shape next (.motion m) (.select shape next)
  | textObject (o : TextObject) :
      Ends shape next (.textObject o) (.select (o.shapeFor shape) next)
  | change : Ends shape next (.operator .change) .insert
  | operator {o : Operator} (other : o ≠ .change) : Ends shape next (.operator o) next.toMode

theorem Handler.Ends.not_visual {shape : Shape} {next : LastingMode} {f : Handler} {m : Mode}
    (h : f.Ends shape next m) : m.isVisual = false := by
  cases h with
  | operator other => cases next <;> rfl
  | _ => rfl

namespace Turn

variable {t : Turn} {text : Text} {f : Handler} {o : TextObject} {shape : Shape}
  {next : LastingMode} {oneShot : Bool}

def misses (t : Turn) (text : Text) : Handler → Bool
  | .textObject o => (o.find? text t.cursor (max (t.command.totalCount.getD 1) 1)).isNone
  | .motion _ | .operator _ | .command _ | .extension _ => false

theorem run_of_missed (idle : t.mode.isOperatorPending = false) (missed : t.misses text f) :
    t.run text f = ({ t with command := {} } : Turn).emit .bell := by
  cases f with
  | textObject o =>
    have missing : o.find? text t.cursor (max (t.command.totalCount.getD 1) 1) = none :=
      Option.isNone_iff_eq_none.1 missed
    rw [run, argument, if_neg (Bool.eq_false_iff.1 idle), takeCounted]
    simp only [missing]
  | _ => contradiction

theorem motion_of_single (mode : t.mode = .visual shape next true) (text : Text) (m : Motion) :
    (t.argument text (.motion m)).mode = .select shape next := by
  let u : Turn := { t with command := {} }
  have stays : (u.moveBy text m t.command.totalCount).mode = .visual shape next true :=
    (congrArg ModeState.mode (u.moveBy_modes text m _)).trans mode
  rw [argument, if_neg (by rw [mode]; exact Bool.false_ne_true), takeCounted]
  exact (finishMove_mode _ text).trans (by rw [stays]; rfl)

theorem object_of_single (mode : t.mode = .visual shape next true)
    (found : t.misses text (.textObject o) = false) :
    (t.argument text (.textObject o)).mode = .select (o.shapeFor shape) next := by
  obtain ⟨r, hr⟩ : ∃ r, o.find? text t.cursor (max (t.command.totalCount.getD 1) 1) = some r :=
    Option.isSome_iff_exists.1 (Option.isNone_eq_false_iff.1 found)
  have taken : (t.taking (r.clamp text.size) (o.shapeFor shape)).mode =
      .visual (o.shapeFor shape) next true := congrArg ModeState.mode (taking_modes mode _ _)
  rw [argument_of_found mode hr, finishMove_mode, taken]
  rfl

theorem operator_of_single (mode : t.mode = .visual shape next true) (text : Text) (o : Operator) :
    (t.operator text o).mode = if o = .change then .insert else next.toMode := by
  have visual : t.mode.isVisual := by rw [mode]; rfl
  obtain ⟨x, selection⟩ := exists_selection (Mode.hasSelection_of_visual visual)
  rw [operator_of_visual visual, operateOnSelection_of_selection selection text o]
  show t.mode.after (if o = .change then .enterInsert else .exit) = _
  rw [mode]
  split <;> rfl

/-- What a single Visual command comes to, unless its text object is not found. -/
theorem run_of_single (part : f.isCommandPart) (mode : t.mode = .visual shape next true)
    (found : t.misses text f = false) : f.Ends shape next (t.run text f).mode := by
  cases f with
  | motion m =>
    rw [run, motion_of_single mode]
    exact .motion m
  | textObject o =>
    rw [run, object_of_single mode found]
    exact .textObject o
  | operator o =>
    rw [run, operator_of_single mode]
    by_cases change : o = .change
    · rw [if_pos change, change]
      exact .change
    · rw [if_neg change]
      exact .operator change
  | command c => contradiction
  | extension run => contradiction

theorem leaveAfter_not_visual (t : Turn) (o : Operator) :
    (t.leaveAfter o).mode.isVisual = false := by
  have unselected := leaveAfter_unselected t o
  rw [Mode.hasSelection_eq, Bool.or_eq_false_iff] at unselected
  exact unselected.1

theorem runCommand_not_visual (other : t.mode.isVisual = false) (text : Text) (c : Command) :
    (t.runCommand text c).mode.isVisual = false := by
  unfold runCommand
  split
  · exact (fail_entersNoVisual t).other other
  · simp only
    split
    · exact (fail_entersNoVisual t).other other
    · exact leaveAfter_not_visual (t.emit _) _

theorem operator_not_visual (other : t.mode.isVisual = false) (text : Text) (o : Operator) :
    (t.operator text o).mode.isVisual = false := by
  unfold operator
  split
  · next mode =>
    rw [mode] at other
    contradiction
  · split
    · rfl
    · exact runCommand_not_visual (t := { t with command := {} }) other text _
    · exact (fail_entersNoVisual t).other other
  · split
    · rfl
    · exact runCommand_not_visual (t := { t with command := {} }) other text _
    · exact (fail_entersNoVisual t).other other
  · exact (fail_entersNoVisual t).other other

theorem finishMove_not_visual (other : t.mode.isVisual = false) (text : Text) :
    (t.finishMove text).mode.isVisual = false := by
  rw [finishMove_mode]
  cases mode : t.mode with
  | visual shape next oneShot =>
    rw [mode] at other
    contradiction
  | operatorPending next => cases next <;> rfl
  | _ => rfl

theorem goTo_of_other (other : t.mode.isVisual = false) (o : TextObject) (r : Span) :
    t.goTo o r = { t.moveTo r.start with column := none } := by
  unfold goTo
  split
  · next mode =>
    rw [mode] at other
    contradiction
  · rfl

theorem argument_not_visual (other : t.mode.isVisual = false) (text : Text) (a : Argument) :
    (t.argument text a).mode.isVisual = false := by
  let u : Turn := { t with command := {} }
  unfold argument takeCounted
  split
  · exact runCommand_not_visual (t := u) other text _
  · simp only
    split
    · refine finishMove_not_visual ?_ text
      rw [Control.mode, moveBy_modes]
      exact other
    · exact finishMove_not_visual (t := u) other text
    · split
      · exact other
      · rw [goTo_of_other (t := u) other]
        exact finishMove_not_visual (t := { u.moveTo _ with column := none }) other text

theorem run_not_visual (part : f.isCommandPart) (other : t.mode.isVisual = false) (text : Text) :
    (t.run text f).mode.isVisual = false := by
  cases f with
  | motion m => exact argument_not_visual other text _
  | textObject o => exact argument_not_visual other text _
  | operator o => exact operator_not_visual other text o
  | command c => contradiction
  | extension run => contradiction

end Turn

namespace Editor

variable {e : Editor} {km : Keymap} {text : Text} {cursor : Nat} {c : Call} {f : Handler}
  {shape : Shape} {next : LastingMode}

/-- A call that runs one motion, text object or operator ends a single Visual command, whatever
else its keys do: unless Escape has left the selection before, the handler leads to Select, to
Insert or to the lasting mode. Only a text object that is not found lets the command go on. -/
theorem single_commands_end (mode : e.mode = .visual shape next true)
    (only : e.handlersRun km text cursor c = [f]) (part : f.isCommandPart) :
    let a := e.respond km text cursor c
    ∃ x z, e.Runs km text cursor c f x z ∧ (z.queue = [] → a = z.response) ∧
      (x.mode = e.mode ∨ x.mode.isVisual = false) ∧
      (x.mode = e.mode → x.misses text f = false → f.Ends shape next z.mode) ∧
      (x.mode = e.mode → x.misses text f → z.mode = e.mode ∧ z.actions = x.actions.push .bell) ∧
      ((x.mode = e.mode → x.misses text f = false) → a.editor.mode.isVisual = false) := by
  intro a
  obtain ⟨x, z, runs, before, after⟩ := exists_runs_of_single only
  have ran : z.mode = (x.toTurn.run text f).mode :=
    congrArg (fun t : Turn => t.mode) runs.toTurn_eq
  have still : x.mode = e.mode ∨ x.mode.isVisual = false := by
    cases visual : x.mode.isVisual with
    | true => exact Or.inl (before visual)
    | false => exact Or.inr rfl
  have ends (same : x.mode = e.mode) (found : x.misses text f = false) :
      f.Ends shape next z.mode := by
    rw [ran]
    exact Turn.run_of_single part (same.trans mode) found
  refine ⟨x, z, runs, runs.respond_eq, still, ends, ?_, ?_⟩
  · intro same missed
    have idle : x.mode.isOperatorPending = false := by rw [same, mode]; rfl
    have rang : z.toTurn = _ := runs.toTurn_eq.trans (Turn.run_of_missed idle missed)
    rw [rang]
    exact ⟨same, rfl⟩
  · intro found
    refine after.other ?_
    by_cases same : x.mode = e.mode
    · exact (ends same (found same)).not_visual
    · rw [ran]
      exact Turn.run_not_visual part (still.resolve_left same) text

theorem single_commands_end_unmoved :
    let e : Editor := { modes := { mode := .visual .character .normal true, anchor := some 0 } }
    let text := Text.ofString "hello"
    let c : Call := .input (.key (Key.plain 'h'))
    let a := e.respond .standard text 0 c
    e.handlersRun .standard text 0 c = [.motion .left] ∧
      a.editor.mode.isVisual = false ∧ .bell ∈ a.actions := by
  intro e text c a
  have only : e.handlersRun .standard text 0 c = [.motion .left] := by cbv
  obtain ⟨x, z, _, _, _, _, _, ends⟩ := single_commands_end rfl only rfl
  have rings : a.actions.contains .bell := by cbv
  exact ⟨only, ends fun _ => rfl, by simpa using rings⟩

theorem single_command_goes_on :
    let o := TextObject.fixed none
    let e : Editor := { modes := { mode := .visual .character .normal true, anchor := some 0 } }
    let text := Text.ofString "hello"
    let c : Call := .input (.key (Key.plain 'Z'))
    let a := e.respond (objectKeymap o) text 0 c
    e.handlersRun (objectKeymap o) text 0 c = [.textObject o] ∧
      a.editor.mode = e.mode ∧ a.editor.waiting = [] ∧ a.actions = #[.bell] := by
  intro o e text c a
  have only : e.handlersRun (objectKeymap o) text 0 c = [.textObject o] := by cbv
  have unended : a.editor.mode = e.mode ∧ a.editor.waiting = [] ∧ a.actions = #[.bell] := by cbv
  exact ⟨only, unended⟩

end Editor

end ModalEditing
