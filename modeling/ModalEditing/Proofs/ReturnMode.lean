import ModalEditing.Proofs.AskedActions
import ModalEditing.Proofs.CoveredText
import ModalEditing.Proofs.ShownSelection

/-! Where a selection leads back to. Visual and Select carry the lasting mode that was left for
them, and keep it however they trade places. The call that leaves them leads back to this mode, or
to Insert if it has changed the selection or typed over it. -/

namespace ModalEditing

namespace Mode

variable {m m' : Mode} {replaced : Bool}

/-- From a mode with a selection: either a selection stays, over the same lasting mode, or that
mode follows, with Insert in its place where the selection has been replaced. -/
def Returns (m m' : Mode) (replaced : Bool) : Prop :=
  replaced = false ∧ m'.hasSelection ∧ m'.base = m.base ∨
    m' = if replaced then .insert else m.base.toMode

theorem Returns.same (h : m.hasSelection) : m.Returns m false := Or.inl ⟨rfl, h, rfl⟩

theorem Returns.kept (h : m.Returns m' replaced) (selects : m'.hasSelection) :
    replaced = false ∧ m'.base = m.base := by
  rcases h with ⟨unreplaced, _, base⟩ | rfl
  · exact ⟨unreplaced, base⟩
  · split at selects
    · contradiction
    · rw [LastingMode.toMode_hasSelection] at selects
      contradiction

theorem Returns.eq_of_left (h : m.Returns m' replaced) (left : m'.hasSelection = false) :
    m' = if replaced then .insert else m.base.toMode := by
  rcases h with ⟨_, selects, _⟩ | eq
  · rw [left] at selects
    contradiction
  · exact eq

theorem Returns.of_base {m₁ : Mode} (h : m₁.Returns m' replaced) (base : m₁.base = m.base) :
    m.Returns m' replaced := by
  unfold Returns at h ⊢
  rwa [← base]

theorem after_exit_of_selection (h : m.hasSelection) : m.after .exit = m.base.toMode := by
  cases m <;> first | rfl | contradiction

theorem returns_of_trade {e : ModeEvent}
    (he : e = .commandDone ∨ e = .toggleSelectVisual ∨ e = .singleVisualCommand)
    (h : m.hasSelection) : m.Returns (m.after e) false := by
  obtain ⟨selects, _, base, _⟩ := after_keeps he (not_pending_of_hasSelection h)
  exact Or.inl ⟨rfl, selects.trans h, base⟩

theorem returns_of_toggle (h : m.isVisual) (shape : Shape) :
    m.Returns (m.after (.toggleVisual shape)) false := by
  obtain ⟨current, next, oneShot, rfl⟩ := isVisual_iff.1 h
  by_cases same : current = shape
  · exact Or.inr (if_pos same)
  · refine Or.inl ⟨rfl, ?_⟩
    simp [after, same, hasSelection, shape?, base]

end Mode

theorem ModeState.toggleVisual_mode (s : ModeState) (shape : Shape) (cursor : Nat) :
    (s.toggleVisual shape cursor).mode = s.mode.after (.toggleVisual shape) := by
  unfold toggleVisual
  simp only
  split <;> rfl

theorem ModeState.swapEnds_mode (s : ModeState) (cursor : Nat) :
    (s.swapEnds cursor).1.mode = s.mode := by
  unfold swapEnds
  split <;> rfl

theorem Control.dropCommand_mode {c : Control} (h : c.mode.isOperatorPending = false) :
    c.dropCommand.mode = c.mode := by
  rw [dropCommand_of_settled h]
  rfl

/-- In Select, the key is typed over the selection or rubs it out, unless it is mapped. -/
def Key.typesOver (k : Key) : Bool := k.typed?.isSome || k.code == .backspace

def Action.isChange : Action → Bool
  | operate .change .. => true
  | operate .. | setCursor _ | setSelection _ | insertText .. | replaceText .. | bell => false

@[simp] theorem Action.isChange_operate (o : Operator) (r : Span) (shape : Shape) (count : Nat)
    (register : Option Char) : (operate o r shape count register).isChange = (o == .change) := by
  cases o <;> rfl

namespace Turn

variable {t : Turn} {text : Text}

def changes (t : Turn) : Bool := t.actions.any Action.isChange

@[simp] theorem changes_emit (t : Turn) (a : Action) :
    (t.emit a).changes = (t.changes || a.isChange) :=
  asks_emit Action.isChange t a

theorem isChange_ignoresMoves : Action.IgnoresMoves Action.isChange :=
  ⟨fun _ => rfl, fun _ => rfl⟩

@[simp] theorem changes_moveTo (t : Turn) (p : Nat) : (t.moveTo p).changes = t.changes :=
  asks_moveTo isChange_ignoresMoves t p

theorem changes_fail (t : Turn) : t.fail.changes = t.changes :=
  (asks_fail Action.isChange t).trans (Bool.or_false _)

theorem fail_mode (h : t.mode.hasSelection) : t.fail.mode = t.mode :=
  Control.dropCommand_mode (Mode.not_pending_of_hasSelection h)

theorem operateOnSelection_returns (h : t.mode.hasSelection) (fresh : t.changes = false)
    (text : Text) (o : Operator) :
    t.mode.Returns (t.operateOnSelection text o).mode (t.operateOnSelection text o).changes := by
  obtain ⟨x, selection⟩ := exists_selection h
  rw [operateOnSelection_of_selection selection text o]
  simp only [changes_moveTo, changes_emit, Action.isChange_operate]
  change t.mode.Returns (t.mode.after (if o = .change then .enterInsert else .exit))
    (t.changes || o == .change || false)
  rw [fresh]
  refine Or.inr ?_
  by_cases change : o = .change
  · rw [change]
    rfl
  · rw [if_neg change, beq_false_of_ne change, Mode.after_exit_of_selection h]
    rfl

theorem moveBy_changes (t : Turn) (text : Text) (m : Motion) (typed : Option Nat) :
    (t.moveBy text m typed).changes = t.changes := by
  unfold moveBy
  simp only
  split
  · exact (changes_emit t .bell).trans (Bool.or_false _)
  · exact changes_moveTo { t with column := t.columnAfter text m } _

theorem goTo_base (t : Turn) (o : TextObject) (span : Span) :
    (t.goTo o span).mode.base = t.mode.base := by
  unfold goTo
  simp only
  split
  · next mode =>
    rw [Control.mode] at mode
    simp [Control.mode, ModeState.setSelection, mode, Mode.base]
  · rfl

theorem finishMove_returns (h : t.mode.hasSelection) (text : Text) :
    t.mode.Returns (t.finishMove text).mode false ∧ (t.finishMove text).changes = t.changes := by
  rw [finishMove_mode]
  exact ⟨Mode.returns_of_trade (Or.inl rfl) h, asks_finishMove isChange_ignoresMoves t text⟩

theorem argument_returns (h : t.mode.hasSelection) (text : Text) (a : Argument) :
    t.mode.Returns (t.argument text a).mode false ∧ (t.argument text a).changes = t.changes := by
  have idle := Mode.not_pending_of_hasSelection h
  unfold argument takeCounted
  rw [if_neg (Bool.eq_false_iff.1 idle)]
  let u : Turn := { t with command := {} }
  cases a with
  | motion m =>
    have mode : (u.moveBy text m t.command.totalCount).mode = t.mode :=
      congrArg ModeState.mode (moveBy_modes u text m _)
    obtain ⟨returns, unchanged⟩ := finishMove_returns (mode ▸ h) text
    exact ⟨returns.of_base (congrArg Mode.base mode), unchanged.trans (moveBy_changes u text m _)⟩
  | wholeLines => exact finishMove_returns (t := u) h text
  | textObject o =>
    simp only
    split
    · exact ⟨.same h, (changes_emit u .bell).trans (Bool.or_false _)⟩
    · next span _ =>
      obtain ⟨returns, unchanged⟩ :=
        finishMove_returns ((u.goTo_hasSelection o (span.clamp text.size)).trans h) text
      exact ⟨returns.of_base (u.goTo_base o _),
        unchanged.trans (asks_goTo isChange_ignoresMoves u o _)⟩

theorem toggleVisual_returns (visual : t.mode.isVisual) (text : Text) (shape : Shape) :
    t.mode.Returns (t.editCommand text (.toggleVisual shape)).mode false := by
  have mode : (t.editCommand text (.toggleVisual shape)).mode =
      t.mode.after (.toggleVisual shape) := t.modes.toggleVisual_mode shape t.cursor
  rw [mode]
  exact Mode.returns_of_toggle visual shape

theorem editCommand_returns {c : EditCommand} (hc : c.modes = .selecting ∨ c = .swapEnds)
    (h : t.mode.hasSelection) (text : Text) :
    t.mode.Returns (t.editCommand text c).mode false := by
  have trade (e : ModeEvent) (he : e = .toggleSelectVisual ∨ e = .singleVisualCommand)
      (switched : (t.editCommand text c).mode = (t.modes.switch e text t.cursor).1.mode) :
      t.mode.Returns (t.editCommand text c).mode false := by
    rw [switched, ModeState.switch_mode]
    exact Mode.returns_of_trade (Or.inr he) h
  rcases hc with selecting | rfl
  · cases c with
    | toggleSelectVisual =>
      refine trade _ (Or.inl rfl) ?_
      simp [editCommand, runEditCommand, Control.mode, ModeState.toggleSelectVisual]
    | singleVisualCommand =>
      refine trade _ (Or.inr rfl) ?_
      simp [editCommand, runEditCommand, Control.mode, ModeState.singleVisualCommand]
    | _ => exact absurd selecting (by simp [EditCommand.modes, ModeSet.selecting])
  · have mode : (t.editCommand text .swapEnds).mode = t.mode := t.modes.swapEnds_mode t.cursor
    rw [mode]
    exact .same h

theorem run_of_visual {f : Handler} (visual : t.mode.isVisual)
    (hf : f.modes.meets t.mode.toModeSet) (fresh : t.changes = false) (text : Text) :
    t.mode.Returns (t.run text f).mode (t.run text f).changes := by
  have selects : t.mode.hasSelection := Mode.hasSelection_of_visual visual
  have unreplaced {u : Turn} (h : t.mode.Returns u.mode false ∧ u.changes = t.changes) :
      t.mode.Returns u.mode u.changes := by
    rw [h.2, fresh]
    exact h.1
  cases f with
  | motion m => exact unreplaced (argument_returns selects text _)
  | textObject o => exact unreplaced (argument_returns selects text _)
  | operator o =>
    rw [run, operator_of_visual visual]
    exact operateOnSelection_returns selects fresh text o
  | command c =>
    refine unreplaced ⟨?_, asks_editCommand isChange_ignoresMoves t text c⟩
    cases c with
    | toggleVisual shape => exact toggleVisual_returns visual text shape
    | toggleSelectVisual => exact editCommand_returns (Or.inl rfl) selects text
    | singleVisualCommand => exact editCommand_returns (Or.inl rfl) selects text
    | swapEnds => exact editCommand_returns (Or.inr rfl) selects text
    | _ =>
      have normal := Mode.meets_normal hf
      rw [normal] at visual
      contradiction
  | extension f => simp [Handler.modes, ModeSet.meets] at hf

theorem replaceSelection_mode (h : t.mode.hasSelection) (text : Text) (c : Option Char) :
    (t.replaceSelection text c).mode = .insert := by
  obtain ⟨x, selection⟩ := exists_selection h
  unfold replaceSelection
  rw [selection]
  cases c <;> rfl

theorem run_of_select {f : Handler} (select : t.mode.isSelect)
    (hf : f.modes.meets t.mode.toModeSet) (text : Text) :
    t.mode.Returns (t.run text f).mode false := by
  have selects : t.mode.hasSelection := Mode.hasSelection_of_select select
  obtain ⟨shape, next, mode⟩ := Mode.isSelect_iff.1 select
  rw [mode] at hf
  cases f with
  | command c =>
    cases c with
    | toggleSelectVisual => exact editCommand_returns (Or.inl rfl) selects text
    | singleVisualCommand => exact editCommand_returns (Or.inl rfl) selects text
    | _ => contradiction
  | _ => contradiction

theorem selectKey_returns (select : t.mode.isSelect) (text : Text) (k : Key) :
    t.mode.Returns (t.selectKey text k).mode k.typesOver := by
  have selects : t.mode.hasSelection := Mode.hasSelection_of_select select
  unfold selectKey Key.typesOver
  split
  · next rubs =>
    refine Or.inr ?_
    rw [replaceSelection_mode selects, rubs]
    simp
  · next other =>
    split
    · next c typed =>
      refine Or.inr ?_
      rw [replaceSelection_mode selects, typed]
      rfl
    · next untyped =>
      rw [untyped, beq_false_of_ne other]
      exact .same selects

end Turn

/-- The change operator has been applied to a selection of Visual, or the key has been typed over
one of Select. -/
def Mode.replaced (m : Mode) (key? : Option Key) (actions : Array Action) : Bool :=
  m.isVisual && actions.any Action.isChange || m.isSelect && key?.any Key.typesOver

theorem Mode.replaced_of_visual {m : Mode} (h : m.isVisual) (key? : Option Key)
    (actions : Array Action) : m.replaced key? actions = actions.any Action.isChange := by
  obtain ⟨shape, next, oneShot, rfl⟩ := isVisual_iff.1 h
  simp [replaced, isVisual, isSelect]

theorem Mode.replaced_of_select {m : Mode} (h : m.isSelect) (key? : Option Key)
    (actions : Array Action) : m.replaced key? actions = key?.any Key.typesOver := by
  obtain ⟨shape, next, rfl⟩ := isSelect_iff.1 h
  simp [replaced, isVisual, isSelect]

theorem ModeSet.select_of_meets {a : ModeSet} {m : Mode} (h : a.meets m.toModeSet)
    (select : m.isSelect) : a.select := by
  obtain ⟨shape, next, rfl⟩ := Mode.isSelect_iff.1 select
  simpa [Mode.toModeSet, meets] using h

theorem Keymap.standard_select : ∀ m ∈ standard.mappings, m.modes.select →
    m.isHandler ∧ ∀ k ∈ m.keys, k.typesOver = false := by
  decide +kernel

theorem Turn.Effect.returns_of_visual {t t' : Turn} {text : Text} (e : t.Effect text t')
    (visual : t.mode.isVisual) (fresh : t.changes = false) :
    t.mode.Returns t'.mode t'.changes := by
  have selects : t.mode.hasSelection := Mode.hasSelection_of_visual visual
  obtain ⟨shape, next, oneShot, mode⟩ := Mode.isVisual_iff.1 visual
  cases e with
  | still =>
    rw [fresh]
    exact .same selects
  | failed =>
    rw [Turn.changes_fail, fresh, Turn.fail_mode selects]
    exact .same selects
  | dropped =>
    have kept : t.dropCommand.mode = t.mode := Turn.fail_mode selects
    have unchanged : Turn.changes { t with toControl := t.dropCommand } = false := fresh
    rw [unchanged, kept]
    exact .same selects
  | left empty idle _ =>
    have unchanged : ((t.transition .exit).emit (.setSelection none)).changes = false :=
      (Turn.changes_emit _ _).trans ((Bool.or_false _).trans fresh)
    rw [unchanged]
    exact Or.inr (Mode.after_exit_of_selection selects)
  | grown commands select grows =>
    have unchanged (b : CommandBuilder) : Turn.changes { t with command := b } = false := fresh
    rw [unchanged]
    exact .same selects
  | ran meets => exact Turn.run_of_visual visual meets fresh text
  | typed typing k =>
    rw [mode] at typing
    contradiction
  | typedOver select k =>
    rw [mode] at select
    contradiction

namespace Dispatch

variable {text : Text} {flush : Bool} {d d' : Dispatch}

theorem escape_returns (h : d.mode.hasSelection) : d.mode.Returns d.escape.mode false := by
  unfold escape
  split
  · have kept : d.dropCommand.mode = d.mode := Turn.fail_mode h
    exact Or.inl ⟨rfl, kept ▸ h, congrArg Mode.base kept⟩
  · exact Or.inr (Mode.after_exit_of_selection h)

theorem Undecided.single_of_select (h : d.Undecided) (select : d.mode.isSelect)
    (hs : Step .standard text flush d d') : d.waiting = [] ∧ ∃ s, d.queue = [s] := by
  have alone : ¬ (d.waiting ≠ [] ∨ 1 < d.queue.length) := by
    intro more
    rw [(h.commands more).2] at select
    contradiction
  simp only [not_or, Decidable.not_not, Nat.not_lt] at alone
  obtain ⟨idle, one⟩ := alone
  refine ⟨idle, ?_⟩
  rcases Nat.le_one_iff_eq_zero_or_eq_one.1 one with none | one
  · exact absurd hs (Spent.no_step ⟨List.length_eq_zero_iff.1 none, idle⟩)
  · exact List.length_eq_one_iff.1 one

theorem apply_returns_of_select {m : Mapping} {n : Nat} (select : d.mode.isSelect)
    (hm : m ∈ Keymap.standard.mappings) (meets : m.modes.meets d.mode.toModeSet) :
    d.mode.Returns (d.apply text m n).mode false := by
  have fits := Keymap.standard_fits m hm
  have handler := (Keymap.standard_select m hm (ModeSet.select_of_meets meets select)).1
  unfold apply
  split
  · next f target =>
    rw [Mapping.Fits, target] at fits
    rw [show m.modes = f.modes from fits] at meets
    exact Turn.run_of_select select meets text
  · next ks target => simp [Mapping.isHandler, target] at handler

theorem unmapped_returns_of_select {s : Stroke} (select : d.mode.isSelect)
    (hw : d.waiting = [s]) : d.mode.Returns (d.unmapped text).mode s.key.typesOver := by
  unfold unmapped
  rw [hw]
  simp only
  rw [if_neg (Bool.eq_false_iff.1 (Mode.not_typing_of_select select)), if_pos select]
  exact Turn.selectKey_returns select text s.key

theorem step_returns_of_select (h : d.Undecided) (select : d.mode.isSelect)
    (hs : Step .standard text flush d d') :
    d'.Spent ∧ ∃ s, d.queue = [s] ∧ d.mode.Returns d'.mode s.key.typesOver := by
  have selects : d.mode.hasSelection := Mode.hasSelection_of_select select
  obtain ⟨idle, s, hq⟩ := h.single_of_select select hs
  have accepted : d.accept = { d with queue := [], waiting := [s] } := by
    unfold accept
    rw [hq, idle]
    rfl
  cases hs with
  | caught hq' hc =>
    rename_i s' queue
    obtain ⟨rfl, rfl⟩ := List.cons.inj (hq.symm.trans hq')
    refine ⟨⟨(intercept?_eq hc).2.1, intercept?_waiting hc⟩, s, hq, ?_⟩
    cases (caught_of_intercept? hc).2 with
    | escape code =>
      have refused : s.key.typesOver = false := by
        simp [Key.typesOver, Key.typed?, Key.printable?, code]
      rw [refused]
      exact escape_returns selects
    | grows _ other _ => exact absurd select (Bool.eq_false_iff.1 other)
    | refused _ other => exact absurd select (Bool.eq_false_iff.1 other)
  | waits hl ha =>
    -- keys wait where keys are commands only
    have waits := (h.waits hl ha).commands (Or.inl (accept_waiting_ne_nil hl))
    rw [accepted] at waits
    exact absurd select (Bool.eq_false_iff.1 waits.2)
  | mapped hl ha =>
    obtain ⟨hm, meets⟩ := mapping_of_answer ha
    obtain ⟨handler, untyped⟩ := Keymap.standard_select _ hm (ModeSet.select_of_meets meets select)
    have keys := h.keys_of_found ha
    rw [accepted] at keys
    refine ⟨h.handled hl ha handler, s, hq, ?_⟩
    rw [untyped s.key (by rw [keys]; exact List.mem_singleton_self _), accepted]
    exact apply_returns_of_select (d := { d with queue := [], waiting := [s] }) select hm meets
  | unmapped hl ha =>
    refine ⟨h.unmapped hl ha, s, hq, ?_⟩
    rw [accepted]
    exact unmapped_returns_of_select (d := { d with queue := [], waiting := [s] }) select rfl

/-- All along a turn from `t` that the key `key?` has begun: until a handler has been found the
turn stands still, with the key still to come in Select, and then the selection has stayed or led
back. -/
def Returning (t : Turn) (key? : Option Key) (d : Dispatch) : Prop :=
  d.Spent ∧ t.mode.Returns d.mode (t.mode.replaced key? d.actions) ∨
    d.Undecided ∧ d.toTurn = t ∧ (t.mode.isSelect → d.queue.map Stroke.key = key?.toList)

variable {t : Turn} {key? : Option Key}

theorem step_returning (selects : t.mode.hasSelection) (fresh : t.changes = false)
    (h : d.Returning t key?) (hs : Step .standard text flush d d') : d'.Returning t key? := by
  rcases h with ⟨spent, _⟩ | ⟨undecided, rfl, keys⟩
  · exact absurd hs spent.no_step
  rw [Mode.hasSelection_eq, Bool.or_eq_true] at selects
  rcases selects with visual | select
  · rcases undecided_step undecided hs with spent | ⟨still, same⟩
    · refine Or.inl ⟨spent, ?_⟩
      rw [Mode.replaced_of_visual visual]
      exact (step_effect Keymap.standard_fits hs).returns_of_visual visual fresh
    · refine Or.inr ⟨still, same, ?_⟩
      intro select
      obtain ⟨shape, next, mode⟩ := Mode.isSelect_iff.1 select
      rw [mode] at visual
      contradiction
  · obtain ⟨spent, s, hq, returns⟩ := step_returns_of_select undecided select hs
    have key : key? = some s.key := by
      rw [← Option.toList_eq_singleton_iff, ← keys select, hq]
      rfl
    refine Or.inl ⟨spent, ?_⟩
    rw [Mode.replaced_of_select select, key]
    exact returns

theorem Returning.returns (h : d.Returning t key?) (hq : d.queue = [])
    (selects : t.mode.hasSelection) (fresh : t.changes = false) :
    t.mode.Returns d.mode (t.mode.replaced key? d.actions) := by
  rcases h with ⟨_, returns⟩ | ⟨_, rfl, keys⟩
  · exact returns
  · have unreplaced : d.mode.replaced key? d.actions = false := by
      rw [Mode.hasSelection_eq, Bool.or_eq_true] at selects
      rcases selects with visual | select
      · rw [Mode.replaced_of_visual visual]
        exact fresh
      · have none_left := keys select
        rw [hq, List.map_nil, eq_comm, Option.toList_eq_nil_iff] at none_left
        rw [Mode.replaced_of_select select, none_left]
        rfl
    rw [unreplaced]
    exact .same selects

end Dispatch

namespace Editor

variable {e : Editor}

def Resting (e : Editor) : Prop := (e.begin #[] 0 []).Undecided

theorem turn_returns (h : e.Resting) (selects : e.mode.hasSelection) (text : Text) (cursor : Nat)
    (flush : Bool) {queue : List Stroke} {key? : Option Key} (hq : queue.length ≤ 1)
    (hr : ∀ x ∈ queue, x.remap = true) (hk : queue.map Stroke.key = key?.toList) :
    let r := ((e.begin text cursor queue).run .standard text flush).response
    r.editor.Resting ∧ e.mode.Returns r.editor.mode (e.mode.replaced key? r.actions) := by
  let d := e.begin text cursor queue
  have undecided : d.Undecided := h.next_turn rfl rfl rfl hq hr
  have fresh : d.changes = false := by simp [Turn.changes, d, begin]
  have ended : (d.run .standard text flush).Returning d.toTurn key? :=
    Dispatch.run_invariant .standard text flush
      (fun _ _ kept step => Dispatch.step_returning selects fresh kept step)
      (Or.inr ⟨undecided, rfl, fun _ => hk⟩)
  have no_key := (Dispatch.next?_eq_none_iff.1 (Dispatch.next?_run .standard text flush d)).1
  refine ⟨?_, ended.returns no_key selects fresh⟩
  exact Dispatch.undecided_of_ended (ended.imp And.left And.left) no_key _ _

theorem respond_returns (h : e.Resting) (selects : e.mode.hasSelection) (text : Text)
    (cursor : Nat) (c : Call) :
    let r := e.respond .standard text cursor c
    r.editor.Resting ∧ e.mode.Returns r.editor.mode (e.mode.replaced c.key? r.actions) := by
  cases c with
  | input i => exact turn_returns h selects text cursor false (Nat.le_refl 1) (by simp) rfl
  | flush => exact turn_returns h selects text cursor true (Nat.zero_le 1) (by simp) rfl
  | abort =>
    have kept : e.abort.mode = e.mode :=
      Control.dropCommand_mode (Mode.not_pending_of_hasSelection selects)
    have unreplaced : e.mode.replaced none #[] = false := by simp [Mode.replaced]
    exact ⟨Dispatch.undecided_of_idle rfl rfl,
      Or.inl ⟨unreplaced, kept ▸ selects, congrArg Mode.base kept⟩⟩

theorem replay_returns (h : e.Resting) {calls : List (Text × Nat × Call)}
    (stays : ∀ cs, cs <+: calls → (e.replay .standard cs).mode.hasSelection) :
    (e.replay .standard calls).Resting ∧
      (e.replay .standard calls).mode.base = e.mode.base := by
  induction calls generalizing e with
  | nil => exact ⟨h, rfl⟩
  | cons call calls ih =>
    have selects := stays [] (List.nil_prefix)
    have selected := stays [call] (List.cons_prefix_cons.2 ⟨rfl, List.nil_prefix⟩)
    obtain ⟨resting, returns⟩ := respond_returns h selects call.1 call.2.1 call.2.2
    obtain ⟨rests, base⟩ := ih resting fun cs hcs =>
      stays (call :: cs) (List.cons_prefix_cons.2 ⟨rfl, hcs⟩)
    exact ⟨rests, base.trans (returns.kept selected).2⟩

/-- However long a selection stays, its mode leads back to the same lasting mode: the call that
ends it ends in this mode, or in Insert if it has replaced the selection. A call that replaces the
selection does end it. -/
theorem selections_lead_back (idle : e.waiting = []) {calls : List (Text × Nat × Call)}
    (stays : ∀ cs, cs <+: calls → (e.replay .standard cs).mode.hasSelection) :
    let s := e.replay .standard calls
    s.mode.base = e.mode.base ∧
      ∀ text cursor c,
        let a := s.respond .standard text cursor c
        let replaced := s.mode.replaced c.key? a.actions
        (a.editor.mode.hasSelection → replaced = false ∧ a.editor.mode.base = e.mode.base) ∧
          (a.editor.mode.hasSelection = false →
            a.editor.mode = if replaced then .insert else e.mode.base.toMode) := by
  intro s
  have resting : e.Resting := Dispatch.undecided_of_idle idle rfl
  obtain ⟨rests, base⟩ := replay_returns resting stays
  refine ⟨base, ?_⟩
  intro text cursor c a replaced
  obtain ⟨_, returns⟩ := respond_returns rests (stays calls List.prefix_rfl) text cursor c
  rw [← base]
  exact ⟨returns.kept, returns.eq_of_left⟩

theorem selections_lead_back_one_shot :
    let e : Editor := { modes := { mode := .visual .character .replace false, anchor := some 0 } }
    let text : Text := #['a', 'b', 'c']
    let calls : List (Text × Nat × Call) :=
      [(text, 0, .input (.key (.ctrl 'g'))), (text, 1, .input (.key (.ctrl 'o'))),
        (text, 0, .input (.key (.plain 'l')))]
    let s := e.replay .standard calls
    (∀ cs, cs <+: calls → (e.replay .standard cs).mode.hasSelection) ∧
      s.mode = .select .character .replace ∧
      (s.respond .standard text 2 (.input (.key .esc))).editor.mode = .replace ∧
      (s.respond .standard text 2 (.input (.key (.plain 'x')))).editor.mode = .insert := by
  intro e text calls s
  have stays : ∀ cs, cs <+: calls → (e.replay .standard cs).mode.hasSelection := by
    intro cs hcs
    have mem : cs ∈ calls.inits := (List.mem_inits cs calls).2 hcs
    simp only [calls, List.inits, List.map_cons, List.map_nil, List.mem_cons, List.not_mem_nil,
      or_false] at mem
    rcases mem with rfl | rfl | rfl | rfl <;> cbv
  have reached : e.replay .standard calls =
      { modes := { mode := .select .character .replace, anchor := some 0 } } := by cbv
  have back := selections_lead_back (e := e) rfl stays
  rw [show s = _ from reached]
  rw [reached] at back
  refine ⟨stays, rfl, ?_, ?_⟩
  · exact ((back.2 text 2 (.input (.key .esc))).2 (by cbv)).trans rfl
  · exact ((back.2 text 2 (.input (.key (.plain 'x')))).2 (by cbv)).trans rfl

end Editor

end ModalEditing
