import ModalEditing.Proofs.CoveredText
import ModalEditing.Proofs.IndentBlocks
import ModalEditing.Proofs.SpelledKeys

/-! Operators on indentation blocks. A block may be the argument of an operator that waits for it,
or be selected first and given to the operator then. Selecting it takes its last character in and
finds the lines anew; a block is whole lines, so both ways come to the block itself. -/

namespace ModalEditing

namespace Text

variable {t : Text} {p q : Nat}

theorem lineStop_pred (h : q = t.size ∨ t.StartsLine q) (pos : 0 < q) : t.lineStop (q - 1) = q := by
  rcases h with rfl | starts
  · have past := lt_lineStop (t := t) (p := t.size - 1) (by omega)
    have inside := lineStop_le_size t (t.size - 1)
    omega
  · have past := lt_lineStop (t := t) (p := q - 1) (by have := starts.le_size; omega)
    have short := starts.lineStop_le (p := q - 1) (by omega)
    omega

/-- The span is whole lines of the text. It may be empty at the end of the text only. -/
structure WholeLines (t : Text) (r : Span) : Prop where
  lineWise : r.lineWise = true
  start : t.StartsLine r.start
  forward : r.start ≤ r.stop
  stop : r.stop = t.size ∨ t.StartsLine r.stop ∧ r.start < r.stop

theorem WholeLines.stop_le_size {r : Span} (h : t.WholeLines r) : r.stop ≤ t.size := by
  rcases h.stop with ends | ⟨starts, _⟩
  · exact Nat.le_of_eq ends
  · exact starts.le_size

theorem WholeLines.span_selection {r : Span} (h : t.WholeLines r) (exclusive : Bool) :
    Selection.span
      { anchor := r.start, head := max (r.stop - 1) r.start, shape := .line, exclusive } t = r := by
  have inside := h.stop_le_size
  have forward := h.forward
  have first : min (min r.start (max (r.stop - 1) r.start)) t.size = r.start := by omega
  have last : min (max r.start (max (r.stop - 1) r.start)) t.size = max (r.stop - 1) r.start := by
    omega
  have stop : t.lineStop (max (r.stop - 1) r.start) = r.stop := by
    rcases Nat.lt_or_eq_of_le forward with lt | empty
    · rw [Nat.max_eq_left (by omega)]
      exact lineStop_pred (h.stop.imp_right And.left) (by omega)
    · have ends : r.stop = t.size := h.stop.resolve_right fun more => by omega
      rw [Nat.max_eq_right (by omega), empty, ends]
      exact lineStop_size t
  unfold Selection.span
  simp only [first, last, stop, h.start.lineStart_eq]
  rw [← h.lineWise]

end Text

namespace IndentBlock

open Text

theorem span_startsLine (b : IndentBlock) (t : Text) (cursor : Nat) :
    t.StartsLine (b.span t cursor).start ∧ (b.span t cursor).start ≤ t.lineStart cursor := by
  rcases b.span_start t cursor with ⟨_, start⟩ | ⟨bound, above, start⟩
  · rw [start]
    exact ⟨startsLine_zero t, Nat.zero_le _⟩
  · rw [start]
    split
    · exact ⟨above.line.starts, Nat.le_of_lt above.above⟩
    · have line := lineStart_startsLine t cursor
      have skips := skipBlankLines_skipsTo (line.startsLine_lineStop above.above) line
        (line.lineStop_le above.above)
      exact ⟨skips.starts, skips.le⟩

theorem span_wholeLines (b : IndentBlock) (t : Text) (cursor : Nat) :
    t.WholeLines (b.span t cursor) := by
  obtain ⟨starts, above⟩ := b.span_startsLine t cursor
  have line := lineStart_le_size t cursor
  rcases b.span_stop t cursor with ⟨_, stop⟩ | ⟨bound, below, stop⟩
  · exact ⟨rfl, starts, by omega, Or.inl stop⟩
  · have past := below.below
    split at stop
    · have further := lt_lineStop below.line.lt_size
      refine ⟨rfl, starts, by omega, ?_⟩
      rw [stop]
      rcases t.lineStop_starts_or_ends bound with next | ends
      · exact Or.inr ⟨next, by omega⟩
      · exact Or.inl ends
    · exact ⟨rfl, starts, by omega, Or.inr ⟨stop ▸ below.line.starts, by omega⟩⟩

end IndentBlock

theorem ModeState.finishCommand_of_visual {s : ModeState} {shape : Shape} {next : LastingMode}
    (mode : s.mode = .visual shape next false) (t : Text) (cursor : Nat) :
    s.finishCommand t cursor = (s, cursor) :=
  switch_of_same (by rw [mode]; rfl) (Or.inl (by rw [mode]; rfl)) t cursor

theorem ModeState.transition_of_operator {s : ModeState} (o : Operator)
    (base : s.mode.after .exit = .normal) :
    s.transition (if o = .change then .enterInsert else .exit) =
      { s with mode := if o = .change then .insert else .normal, anchor := none } := by
  unfold transition
  split
  · rfl
  · rw [base]
    rfl

namespace Turn

variable {t : Turn} {text : Text} {o : Operator} {x : TextObject} {r : Span} {shape : Shape}
  {next : LastingMode} {oneShot : Bool}

/-- Nothing of a command is typed but the operator. -/
def awaiting (o : Operator) : CommandBuilder := { stage := .awaitingArgument, operator := some o }

theorem operator_of_normal (mode : t.mode = .normal) (free : t.command.operator = none)
    (o : Operator) :
    t.operator text o =
      { t with
        command := t.command.waitingFor o
        modes := t.modes.transition .enterOperatorPending } := by
  rw [operator, mode]
  simp only [CommandBuilder.enterOperator_of_none free]
  rfl

theorem argument_of_pending (pending : t.mode.isOperatorPending) (command : t.command = awaiting o)
    (found : x.find? text t.cursor 1 = some r) (whole : text.WholeLines r) :
    let left : Turn :=
      { t with
        command := {}
        modes := t.modes.transition (if o = .change then .enterInsert else .exit)
        column := none }
    t.argument text (.textObject x) = (left.emit (.operate o r .line 1 none)).moveTo r.start := by
  have inside : r.clamp text.size = r := Span.clamp_eq_self whole.forward whole.stop_le_size
  rw [argument, if_pos pending, command]
  simp [runCommand, CommandBuilder.complete, awaiting, CommandBuilder.totalCount, effectiveArgument,
    Argument.span?, Command.context, found, inside, whole.lineWise]
  rfl

theorem finishMove_of_visual (mode : t.mode = .visual shape next false) (text : Text) :
    t.finishMove text = t.showSelection := by
  have same : t.withModes (t.modes.finishCommand text t.cursor) = t := by
    rw [ModeState.finishCommand_of_visual mode]
    exact if_pos rfl
  have selects : t.mode.hasSelection := by rw [mode]; rfl
  rw [finishMove, same]
  exact if_pos selects

def taking (t : Turn) (r : Span) (shape : Shape) : Turn :=
  ({ t with command := {}, modes := t.modes.setSelection r.start shape, column := none }).moveTo
    (max (r.stop - 1) r.start)

theorem taking_modes (mode : t.mode = .visual shape next oneShot) (r : Span) (taken : Shape) :
    (t.taking r taken).modes =
      { t.modes with mode := .visual taken next oneShot, anchor := some r.start } := by
  show t.modes.setSelection r.start taken = _
  rw [ModeState.setSelection, show t.modes.mode = _ from mode]

theorem argument_of_found (mode : t.mode = .visual shape next oneShot)
    (found : x.find? text t.cursor (max (t.command.totalCount.getD 1) 1) = some r) :
    t.argument text (.textObject x) =
      (t.taking (r.clamp text.size) (x.shapeFor shape)).finishMove text := by
  have mode' : ({ t with command := {} } : Turn).mode = .visual shape next oneShot := mode
  rw [argument, if_neg (by rw [mode]; exact Bool.false_ne_true), takeCounted]
  simp only [found, goTo, mode']
  rfl

theorem argument_of_visual (mode : t.mode = .visual shape next false) (command : t.command = {})
    (found : x.find? text t.cursor 1 = some r) (whole : text.WholeLines r)
    (lines : x.shapeFor shape = .line) :
    t.argument text (.textObject x) = (t.taking r .line).showSelection := by
  have inside : r.clamp text.size = r := Span.clamp_eq_self whole.forward whole.stop_le_size
  have found' : x.find? text t.cursor (max (t.command.totalCount.getD 1) 1) = some r := by
    rw [command]
    exact found
  have selects : (t.taking r .line).mode = .visual .line next false :=
    congrArg ModeState.mode (taking_modes mode r .line)
  rw [argument_of_found mode found', inside, lines, finishMove_of_visual selects]

theorem toggleVisual_of_normal (mode : t.mode = .normal) (text : Text) (shape : Shape) :
    let selecting : Turn :=
      { t with
        command := {}
        modes := { t.modes with mode := .visual shape .normal false, anchor := some t.cursor }
        column := none }
    t.editCommand text (.toggleVisual shape) = selecting.showSelection := by
  have modes : t.modes.toggleVisual shape t.cursor =
      { t.modes with mode := .visual shape .normal false, anchor := some t.cursor } := by
    unfold ModeState.toggleVisual
    simp [ModeState.transition, show t.modes.mode = _ from mode, Mode.after, Mode.isVisual,
      Mode.hasSelection, Mode.shape?, Mode.base]
  rw [editCommand, runEditCommand, modes]
  rfl

end Turn

def Action.isOperation : Action → Bool
  | operate .. => true
  | setCursor _ | setSelection _ | insertText .. | replaceText .. | bell => false

namespace Session

variable {s s' s'' : Session} {is js : List Input} {as bs : List Action} {o : Operator} {r : Span}

/-- Pressing the inputs one after another leads to `s'`, and the host is asked for the actions. -/
structure LeadsTo (s : Session) (is : List Input) (as : List Action) (s' : Session) : Prop where
  last : (s.pressAll is).1 = s'
  actions : emitted (s.pressAll is).2 = as

theorem pressAll_append (s : Session) (is js : List Input) :
    s.pressAll (is ++ js) =
      (((s.pressAll is).1.pressAll js).1,
        (s.pressAll is).2 ++ ((s.pressAll is).1.pressAll js).2) := by
  induction is generalizing s with
  | nil => rfl
  | cons i is ih => simp [pressAll, ih]

theorem LeadsTo.trans (h : s.LeadsTo is as s') (h' : s'.LeadsTo js bs s'') :
    s.LeadsTo (is ++ js) (as ++ bs) s'' := by
  obtain ⟨rfl, rfl⟩ := h
  obtain ⟨rfl, rfl⟩ := h'
  refine ⟨?_, ?_⟩
  · rw [pressAll_append]
  · rw [pressAll_append, emitted, List.flatMap_append]
    rfl

def operations (reports : List Report) : List Action := (emitted reports).filter Action.isOperation

def pendingWith (s : Session) (b : CommandBuilder) : Session :=
  { s with
    editor :=
      { modes := { s.editor.modes with mode := .operatorPending .normal, anchor := none }
        command := b
        column := s.editor.column } }

def awaiting (s : Session) (o : Operator) : Session :=
  { s with
    editor :=
      { modes := { s.editor.modes with mode := .operatorPending .normal, anchor := none }
        command := Turn.awaiting o
        column := s.editor.column } }

def selecting (s : Session) (shape : Shape) (anchor head : Nat) : Session :=
  { s with
    editor :=
      { modes :=
          { s.editor.modes with mode := .visual shape .normal false, anchor := some anchor } }
    cursor := head }

def operated (s : Session) (o : Operator) (r : Span) : Session :=
  { s with
    editor :=
      { modes :=
          { s.editor.modes with mode := if o = .change then .insert else .normal, anchor := none } }
    text := s.text.apply (.operate o r .line 1 none)
    cursor := r.start }

theorem leadsTo_of_prefixFree {f : Handler} {n : Nat} (free : s.keymap.PrefixFree)
    (spelled : s.keymap.Spells s.editor.mode f n (is.map Input.toKey))
    (budget : n ≤ expansionLimit) (waiting : s.editor.waiting = [])
    (named : s.editor.command.isAwaitingRegister = false) (cursor : s.cursor ≤ s.text.size) :
    s.LeadsTo is (s.handled f).actions.toList (s.accept (s.handled f).response) := by
  have some_key : is ≠ [] := by
    rintro rfl
    obtain ⟨m, _, _, keys, _⟩ := spelled.exists_mapping
    exact m.keys_ne_nil keys
  have none_waits : s.editor.waitingKeys = [] := congrArg (List.map Stroke.key) waiting
  have spells : s.keymap.Spells s.editor.mode f n (s.editor.waitingKeys ++ is.map Input.toKey) := by
    rw [none_waits]
    exact spelled
  obtain ⟨last, actions⟩ := pressAll_spells free spells budget (by simp [waiting]) named cursor
    some_key
  exact ⟨last, actions⟩

theorem leadsTo_of_spells {f : Handler} {n : Nat} (keymap : s.keymap = .standard)
    (spelled : Keymap.standard.Spells s.editor.mode f n (is.map Input.toKey))
    (budget : n ≤ expansionLimit) (waiting : s.editor.waiting = [])
    (named : s.editor.command.isAwaitingRegister = false) (cursor : s.cursor ≤ s.text.size) :
    s.LeadsTo is (s.handled f).actions.toList (s.accept (s.handled f).response) :=
  leadsTo_of_prefixFree (keymap ▸ Keymap.standard_prefixFree) (keymap ▸ spelled) budget waiting
    named cursor

section

variable {i : Input} (keymap : s.keymap = .standard)

include keymap

theorem entered_leadsTo (mode : s.editor.mode = .normal) (waiting : s.editor.waiting = [])
    (free : s.editor.command.operator = none)
    (named : s.editor.command.isAwaitingRegister = false) (cursor : s.cursor ≤ s.text.size)
    (hi : i.toKey = Key.plain o.key) :
    s.LeadsTo [i] [] (s.pendingWith (s.editor.command.waitingFor o)) := by
  have spelled : Keymap.standard.Spells s.editor.mode (.operator o) 0 ([i].map Input.toKey) := by
    rw [mode, List.map_singleton, hi]
    exact (Registry.standard_spells_operator o rfl).mono Keymap.standard_extends
  have led := leadsTo_of_spells keymap spelled (Nat.zero_le _) waiting named cursor
  have modes : s.editor.modes.transition .enterOperatorPending =
      { s.editor.modes with mode := .operatorPending .normal, anchor := none } := by
    simp [ModeState.transition, show s.editor.modes.mode = _ from mode, Mode.after, Mode.base,
      Mode.hasSelection, Mode.shape?]
  have ran : s.handled (.operator o) =
      { s.opening with
        command := s.editor.command.waitingFor o
        modes := { s.editor.modes with mode := .operatorPending .normal, anchor := none } } :=
    (Turn.operator_of_normal (t := s.opening) mode free o).trans (by rw [← modes]; rfl)
  rw [ran] at led
  exact led

theorem operator_leadsTo (h : s.Idle) (mode : s.editor.mode = .normal)
    (hi : i.toKey = Key.plain o.key) : s.LeadsTo [i] [] (s.awaiting o) := by
  have led := entered_leadsTo keymap mode h.waiting (by rw [h.command]) (by rw [h.command]; rfl)
    h.cursor hi
  rw [h.command] at led
  exact led

theorem argument_leadsTo {x name : String} {b : IndentBlock} (hx : (x, name) ∈ indentKeys)
    (hb : (name, b) ∈ indentHandlers) (cursor : s.cursor ≤ s.text.size)
    (keys : is.map Input.toKey = Key.typing x) :
    let r := b.span s.text s.cursor
    (s.awaiting o).LeadsTo is [.operate o r .line 1 none, .setCursor r.start] (s.operated o r) := by
  intro r
  have spelled : Keymap.standard.Spells (.operatorPending .normal) (.textObject b.toTextObject) 1
      (is.map Input.toKey) := by
    rw [keys]
    exact Keymap.standard_spells_object hx hb rfl
  have led := leadsTo_of_spells (s := s.awaiting o) keymap spelled (by decide) rfl rfl cursor
  have ran : (s.awaiting o).handled (.textObject b.toTextObject) = _ :=
    Turn.argument_of_pending (t := (s.awaiting o).opening) (x := b.toTextObject) rfl rfl rfl
      (b.span_wholeLines s.text s.cursor)
  rw [ran] at led
  simp only [opening,
    ModeState.transition_of_operator (s := (s.awaiting o).editor.modes) o rfl] at led
  exact led

theorem visual_leadsTo {c : Char} {shape : Shape} (h : s.Idle) (mode : s.editor.mode = .normal)
    (hc : ({ normal := true, visual := true }, Key.plain c, .toggleVisual shape) ∈ selectionKeys)
    (hi : i.toKey = Key.plain c) :
    ∃ x, s.LeadsTo [i] [.setSelection x] (s.selecting shape s.cursor s.cursor) := by
  have spelled : Keymap.standard.Spells s.editor.mode (.command (.toggleVisual shape)) 0
      ([i].map Input.toKey) := by
    rw [mode, List.map_singleton, hi]
    exact (Registry.standard_spells_selection hc rfl).mono Keymap.standard_extends
  have led := leadsTo_of_spells keymap spelled (Nat.zero_le _) h.waiting (by rw [h.command]; rfl)
    h.cursor
  have ran : s.handled (.command (.toggleVisual shape)) = _ :=
    Turn.toggleVisual_of_normal (t := s.opening) mode s.text shape
  rw [ran] at led
  exact ⟨_, led⟩

theorem object_leadsTo {x name : String} {b : IndentBlock} {shape : Shape} {p : Nat}
    (hx : (x, name) ∈ indentKeys) (hb : (name, b) ∈ indentHandlers)
    (cursor : s.cursor ≤ s.text.size) (keys : is.map Input.toKey = Key.typing x)
    (lines : b.toTextObject.shapeFor shape = .line) :
    let r := b.span s.text s.cursor
    let head := max (r.stop - 1) r.start
    ∃ y, (s.selecting shape p s.cursor).LeadsTo is [.setCursor head, .setSelection y]
      (s.selecting .line r.start head) := by
  intro r head
  have spelled : Keymap.standard.Spells (.visual shape .normal false) (.textObject b.toTextObject) 1
      (is.map Input.toKey) := by
    rw [keys]
    exact Keymap.standard_spells_object hx hb rfl
  have led := leadsTo_of_spells (s := s.selecting shape p s.cursor) keymap spelled (by decide) rfl
    rfl cursor
  have ran : (s.selecting shape p s.cursor).handled (.textObject b.toTextObject) = _ :=
    Turn.argument_of_visual (t := (s.selecting shape p s.cursor).opening) (x := b.toTextObject) rfl
      rfl rfl (b.span_wholeLines s.text s.cursor) lines
  rw [ran] at led
  exact ⟨_, led⟩

theorem selected_leadsTo (hi : i.toKey = Key.plain o.key) (whole : s.text.WholeLines r) :
    (s.selecting .line r.start (max (r.stop - 1) r.start)).LeadsTo [i]
      [.operate o r .line 1 none, .setSelection none, .setCursor r.start] (s.operated o r) := by
  let s' := s.selecting .line r.start (max (r.stop - 1) r.start)
  have spelled : Keymap.standard.Spells (.visual .line .normal false) (.operator o) 0
      ([i].map Input.toKey) := by
    rw [List.map_singleton, hi]
    exact (Registry.standard_spells_operator o rfl).mono Keymap.standard_extends
  have cursor : s'.cursor ≤ s'.text.size := by
    have inside := whole.stop_le_size
    have forward := whole.forward
    show max (r.stop - 1) r.start ≤ s.text.size
    omega
  have led := leadsTo_of_spells (s := s') keymap spelled (Nat.zero_le _) rfl rfl cursor
  let y : Selection :=
    { anchor := r.start, head := max (r.stop - 1) r.start, shape := .line
      exclusive := s.editor.modes.endRule == .exclusive }
  have selection : s'.opening.selection? = some y := rfl
  have ran : s'.handled (.operator o) = _ :=
    (Turn.operator_of_visual rfl o).trans
      (Turn.operateOnSelection_of_selection selection s'.text o)
  have lines : y.span s'.text = r := whole.span_selection _
  rw [ran, lines] at led
  simp only [opening, ModeState.transition_of_operator (s := s'.editor.modes) o rfl] at led
  exact led

end

theorem LeadsTo.operations (h : s.LeadsTo is as s') :
    operations (s.pressAll is).2 = as.filter Action.isOperation := by
  rw [Session.operations, h.actions]

/-- An indentation object comes to the same as the argument of an operator and as a selection that
is given to the operator: one operation, on the same lines, and the same session in the end. -/
theorem blocks_operated_alike (keymap : s.keymap = .standard) (h : s.Idle)
    (mode : s.editor.mode = .normal) (o : Operator) {x : String}
    (hx : x ∈ ["ii", "iI", "ai", "aI"]) {v : Char} (hv : v ∈ ['v', 'V']) {i j : Input}
    {is : List Input} (hi : i.toKey = Key.plain o.key) (his : is.map Input.toKey = Key.typing x)
    (hj : j.toKey = Key.plain v) :
    let asArgument := s.pressAll (i :: is)
    let asSelection := s.pressAll (j :: is ++ [i])
    asArgument.1.editor.mode = asSelection.1.editor.mode ∧
      asArgument.1.cursor = asSelection.1.cursor ∧ asArgument.1 = asSelection.1 ∧
      ∃ name b, (x, name) ∈ indentKeys ∧ (name, b) ∈ indentHandlers ∧
        let r := b.span s.text s.cursor
        operations asArgument.2 = [.operate o r .line 1 none] ∧
          operations asSelection.2 = [.operate o r .line 1 none] := by
  obtain ⟨name, b, mem, object⟩ :
      ∃ name b, (x, name) ∈ indentKeys ∧ (name, b) ∈ indentHandlers := by
    have bound : ∀ x ∈ ["ii", "iI", "ai", "aI"], ∃ e ∈ indentKeys, e.1 = x ∧
        ∃ e' ∈ indentHandlers, e'.1 = e.2 := by decide
    obtain ⟨e, he, rfl, e', he', same⟩ := bound x hx
    exact ⟨e.2, e'.2, he, same ▸ he'⟩
  obtain ⟨shape, toggles, lines⟩ : ∃ shape, ({ normal := true, visual := true }, Key.plain v,
      .toggleVisual shape) ∈ selectionKeys ∧ b.toTextObject.shapeFor shape = .line := by
    rcases List.mem_cons.1 hv with rfl | line
    · exact ⟨.character, by decide, rfl⟩
    · obtain rfl := List.mem_singleton.1 line
      exact ⟨.line, by decide, rfl⟩
  let r := b.span s.text s.cursor
  have asArgument := (operator_leadsTo keymap h mode hi).trans
    (argument_leadsTo keymap mem object h.cursor his)
  obtain ⟨y, entered⟩ := visual_leadsTo keymap h mode toggles hj
  obtain ⟨z, taken⟩ := object_leadsTo keymap mem object h.cursor his lines (p := s.cursor)
  have asSelection := (entered.trans taken).trans
    (selected_leadsTo keymap hi (b.span_wholeLines s.text s.cursor))
  have same : (s.pressAll (i :: is)).1 = (s.pressAll (j :: is ++ [i])).1 :=
    asArgument.last.trans asSelection.last.symm
  intro first second
  have same' : first.1 = second.1 := same
  rw [same']
  exact ⟨rfl, rfl, rfl, name, b, mem, object, asArgument.operations, asSelection.operations⟩

theorem blocks_operated_alike_last_line :
    let s : Session := { keymap := .standard, text := Text.ofString "x\n  a\n\n  b", cursor := 9 }
    let i : Input := .key (Key.plain 'c')
    let is : List Input := [.text 'a', .key (Key.plain 'i')]
    let j : Input := .key (Key.plain 'V')
    let r : Span := { start := 0, stop := 10, lineWise := true }
    s.Idle ∧ (s.pressAll (i :: is)).1 = (s.pressAll (j :: is ++ [i])).1 ∧
      operations (s.pressAll (i :: is)).2 = [.operate .change r .line 1 none] ∧
      operations (s.pressAll (j :: is ++ [i])).2 = [.operate .change r .line 1 none] := by
  intro s i is j r
  have idle : s.Idle := ⟨rfl, rfl, by decide⟩
  have alike := blocks_operated_alike rfl idle rfl .change (x := "ai") (by decide) (v := 'V')
    (by decide) (i := i) (j := j) rfl (show is.map Input.toKey = _ from rfl) rfl
  obtain ⟨_, _, same, name, b, mem, object, operated, operated'⟩ := alike
  obtain rfl : name = "textobj-indent-ai" := by simpa [indentKeys] using mem
  obtain rfl : b = .withAbove := by simpa [indentHandlers] using object
  have lines : IndentBlock.withAbove.span s.text s.cursor = r := by decide +kernel
  rw [lines] at operated operated'
  exact ⟨idle, same, operated, operated'⟩

end Session

end ModalEditing
