import ModalEditing.Proofs.HandlerRuns
import ModalEditing.Proofs.OperatedBlocks

/-! Text objects in Visual mode. The selection reaches from the start of the object to its last
character. Where Visual takes its far end in, this covers the object; where it leaves it out, the
last character is left out with it. A selection of lines covers all lines of the object. -/

namespace ModalEditing

namespace Text

variable {t : Text} {r : Span}

/-- Of the spans of whole lines that cover `r`, `c` is the least. -/
structure LeastLines (t : Text) (r c : Span) : Prop where
  whole : t.WholeLines c
  covers : c.covers r
  least : ∀ w, t.WholeLines w → w.covers r → w.covers c

theorem leastLines_span (inside : r.stop ≤ t.size) (filled : r.start < r.stop) :
    t.LeastLines r
      { start := t.lineStart r.start, stop := t.lineStop (r.stop - 1), lineWise := true } := by
  have first := lineStart_le t r.start
  have last := lt_lineStop (t := t) (p := r.stop - 1) (by omega)
  refine ⟨⟨rfl, lineStart_startsLine t _, ?_, ?_⟩, ?_, ?_⟩
  · show t.lineStart r.start ≤ t.lineStop (r.stop - 1)
    omega
  · refine (t.lineStop_starts_or_ends (r.stop - 1)).symm.imp_right fun starts => ⟨starts, ?_⟩
    show t.lineStart r.start < t.lineStop (r.stop - 1)
    omega
  · simp only [Span.covers, Bool.and_eq_true, decide_eq_true_eq]
    omega
  · intro w whole covers
    simp only [Span.covers, Bool.and_eq_true, decide_eq_true_eq] at covers ⊢
    refine ⟨whole.start.le_lineStart covers.1, ?_⟩
    rcases whole.stop with ends | ⟨starts, _⟩
    · rw [ends]
      exact lineStop_le_size t _
    · exact starts.lineStop_le (by omega)

end Text

namespace Selection

variable {t : Text} {r : Span} (inside : r.stop ≤ t.size) (filled : r.start < r.stop)
  (exclusive : Bool)

def ofSpan (r : Span) (shape : Shape) (exclusive : Bool) : Selection :=
  { anchor := r.start, head := max (r.stop - 1) r.start, shape, exclusive }

include inside filled

theorem span_ofSpan_lines : t.LeastLines r ((ofSpan r .line exclusive).span t) := by
  have low : min (min r.start (max (r.stop - 1) r.start)) t.size = r.start := by omega
  have high : min (max r.start (max (r.stop - 1) r.start)) t.size = r.stop - 1 := by omega
  unfold span ofSpan
  simp only [low, high]
  exact Text.leastLines_span inside filled

theorem span_ofSpan {shape : Shape} (other : shape ≠ .line) :
    (ofSpan r shape exclusive).span t =
      { start := r.start, stop := if exclusive then r.stop - 1 else r.stop } := by
  rw [span_of_shape t (s := ofSpan r shape exclusive) other]
  simp only [ofSpan, Span.mk.injEq, and_true]
  refine ⟨by omega, ?_⟩
  cases exclusive <;> simp only [Bool.false_eq_true, if_false, if_true] <;> omega

end Selection

namespace Turn

variable {t : Turn} {text : Text} {shape taken : Shape} {next : LastingMode}
  {oneShot : Bool}

theorem taking_covered (mode : t.mode = .visual shape next oneShot) (text : Text) (r : Span)
    (taken : Shape) :
    (t.taking r taken).modes.covered? text (t.taking r taken).cursor =
      some ((Selection.ofSpan r taken (t.modes.endRule == .exclusive)).span text) := by
  rw [taking_modes mode]
  exact ModeState.covered?_visual rfl rfl text _

theorem finishMove_covered (mode : t.mode = .visual taken next oneShot) {anchor : Nat}
    (ha : t.modes.anchor = some anchor) (inside : t.cursor ≤ text.size) :
    (t.finishMove text).mode = (if oneShot then .select taken next else .visual taken next false) ∧
      (t.finishMove text).modes.covered? text (t.finishMove text).cursor =
        t.modes.covered? text t.cursor := by
  rw [finishMove_mode, finishMove_modes, finishMove_cursor]
  cases oneShot with
  | false =>
    rw [ModeState.finishCommand_of_visual mode, mode]
    exact ⟨rfl, rfl⟩
  | true =>
    have after : t.mode.after .commandDone = .select taken next := by
      rw [mode]
      rfl
    exact ⟨after, ModeState.switch_to_select_covers mode after ha inside⟩

end Turn

namespace Editor

variable {e : Editor} {km : Keymap} {text : Text} {cursor : Nat} {c : Call} {x z : Dispatch}
  {o : TextObject} {shape : Shape} {next : LastingMode} {oneShot : Bool} {r : Span}

/-- What is selected once a text object has been taken in Visual mode: the characters of the
object, less the last one where Visual leaves out its far end, or else the least whole lines that
hold them. Select takes the place of a single Visual command, over the same text. -/
theorem objects_selected (runs : e.Runs km text cursor c (.textObject o) x z)
    (mode : x.mode = .visual shape next oneShot)
    (found : o.find? text x.cursor (max (x.command.totalCount.getD 1) 1) = some r)
    (filled : (r.clamp text.size).isEmpty = false) :
    let object := r.clamp text.size
    let taken := o.shapeFor shape
    (z.queue = [] → e.respond km text cursor c = z.response) ∧
      z.mode = (if oneShot then .select taken next else .visual taken next false) ∧
      ∃ covered, z.modes.covered? text z.cursor = some covered ∧
        (taken = .line → text.LeastLines object covered) ∧
        (taken ≠ .line → covered.start = object.start ∧
          covered.stop =
            if x.modes.endRule = .inclusive then object.stop else object.stop - 1) := by
  intro object taken
  have inside : object.stop ≤ text.size := r.clamp_stop_le text.size
  have forward : object.start < object.stop := by
    have ordered : object.start ≤ object.stop := r.clamp_start_le_stop text.size
    rw [Span.isEmpty, beq_eq_false_iff_ne] at filled
    exact Nat.lt_of_le_of_ne ordered filled
  have ran : z.toTurn = (x.taking object taken).finishMove text :=
    runs.toTurn_eq.trans (Turn.argument_of_found mode found)
  have modes := Turn.taking_modes mode object taken
  have mode' : (x.taking object taken).mode = .visual taken next oneShot :=
    congrArg ModeState.mode modes
  have anchor : (x.taking object taken).modes.anchor = some object.start :=
    congrArg ModeState.anchor modes
  have head : (x.taking object taken).cursor ≤ text.size := by
    show max (object.stop - 1) object.start ≤ text.size
    omega
  obtain ⟨ends, covers⟩ := Turn.finishMove_covered mode' anchor head
  refine ⟨runs.respond_eq, ?_, ?_⟩
  · rw [ran]
    exact ends
  · rw [ran, covers, Turn.taking_covered mode]
    refine ⟨_, rfl, ?_, ?_⟩
    · rintro lines
      rw [lines]
      exact Selection.span_ofSpan_lines inside forward _
    · intro other
      rw [Selection.span_ofSpan inside forward _ other]
      refine ⟨rfl, ?_⟩
      cases x.modes.endRule <;> rfl

def objectKeymap (o : TextObject) : Keymap :=
  (Registry.registerEach {} [.handler { visual := true } (Key.typing "Z") (.textObject o)]).keymap

theorem objects_selected_one_shot :
    let o := TextObject.fixed (some { start := 1, stop := 4 }) .block
    let e : Editor :=
      { modes := { mode := .visual .character .insert true, anchor := some 2 } }
    let text := Text.ofString "hello"
    let a := e.respond (objectKeymap o) text 2 (.input (.key (Key.plain 'Z')))
    o.find? text 2 1 = some { start := 1, stop := 4 } ∧ a.editor.mode = .select .block .insert ∧
      ∃ covered, a.editor.modes.covered? text a.cursor = some covered ∧
        covered.start = 1 ∧ covered.stop = 4 := by
  intro o e text a
  let x := e.begin text 2 [{ key := Key.plain 'Z' }]
  have handler : x.handler? (objectKeymap o) false = some (.textObject o) := rfl
  obtain ⟨z, next, _⟩ := Dispatch.exists_next_of_handler? text handler
  have runs : e.Runs (objectKeymap o) text 2 (.input (.key (Key.plain 'Z'))) (.textObject o) x z :=
    ⟨Dispatch.mem_trace_self _ _ _ x, handler, next⟩
  have last : z.queue = [] := by
    have queue : (x.next? (objectKeymap o) text false).map Dispatch.queue = some [] := by cbv
    rw [next] at queue
    exact Option.some.inj queue
  obtain ⟨response, mode, covered, selected, _, other⟩ :=
    objects_selected runs rfl (show _ = some { start := 1, stop := 4 } from rfl) rfl
  have same : a = z.response := response last
  rw [same]
  exact ⟨rfl, mode, covered, selected, other (by decide)⟩

/-- Where Visual leaves out its far end, the last character of the object is not selected. -/
theorem objects_selected_short_of_end :
    let o := TextObject.fixed (some { start := 1, stop := 4 })
    let e : Editor :=
      { modes :=
          { mode := .visual .character .normal false, anchor := some 2, endRule := .exclusive } }
    let text := Text.ofString "hello"
    let a := e.respond (objectKeymap o) text 2 (.input (.key (Key.plain 'Z')))
    o.find? text 2 1 = some { start := 1, stop := 4 } ∧
      a.editor.mode = .visual .character .normal false ∧
      a.editor.modes.covered? text a.cursor = some { start := 1, stop := 3 } := by
  intro o e text a
  have reached : a.editor.mode = .visual .character .normal false ∧
      a.editor.modes.covered? text a.cursor = some { start := 1, stop := 3 } := by cbv
  exact ⟨rfl, reached⟩

end Editor

end ModalEditing
