import ModalEditing.Proofs.ReturnMode
import ModalEditing.Proofs.StrokeMarks

/-! The handlers that a turn runs. A step runs a handler where the keys that it looks up are
mapped to one. The other steps take keys in, refuse them or type them; they may leave Visual
mode, but neither enter it nor change its kind. -/

namespace ModalEditing

/-- The mode is not Visual, unless it was before and still is the same. -/
def Mode.EntersNoVisual (m m' : Mode) : Prop := m'.isVisual → m' = m

namespace Mode.EntersNoVisual

variable {m m' m'' : Mode}

theorem refl (m : Mode) : m.EntersNoVisual m := fun _ => rfl

theorem of_eq (h : m' = m) : m.EntersNoVisual m' := fun _ => h

theorem of_other (m : Mode) (h : m'.isVisual = false) : m.EntersNoVisual m' :=
  fun visual => absurd visual (Bool.eq_false_iff.1 h)

theorem trans (h : m.EntersNoVisual m') (h' : m'.EntersNoVisual m'') : m.EntersNoVisual m'' := by
  intro visual
  have same := h' visual
  rw [same] at visual ⊢
  exact h visual

theorem other (h : m.EntersNoVisual m') (other : m.isVisual = false) : m'.isVisual = false := by
  by_contra visual
  rw [Bool.not_eq_false] at visual
  rw [h visual, other] at visual
  contradiction

theorem of_exit (m : Mode) : m.EntersNoVisual (m.after .exit) := by
  refine of_other m (Bool.eq_false_iff.2 ?_)
  intro visual
  exact absurd (hasSelection_of_visual visual) (Bool.eq_false_iff.1 (after_exit m))

end Mode.EntersNoVisual

open Mode (EntersNoVisual)

theorem Control.dropCommand_entersNoVisual (c : Control) :
    c.mode.EntersNoVisual c.dropCommand.mode := by
  by_cases pending : c.mode.isOperatorPending
  · have exits : c.dropCommand.mode = c.mode.after .exit := congrArg Control.mode (if_pos pending)
    rw [exits]
    exact .of_exit c.mode
  · exact .of_eq (dropCommand_mode (Bool.eq_false_iff.2 pending))

namespace Turn

variable (t : Turn)

theorem fail_entersNoVisual : t.mode.EntersNoVisual t.fail.mode :=
  t.toControl.dropCommand_entersNoVisual

theorem insertKey_entersNoVisual (k : Key) : t.mode.EntersNoVisual (t.insertKey k).mode := by
  unfold insertKey
  split
  · exact .of_exit t.mode
  · exact .of_eq (congrArg Control.mode t.rubOut_toControl)
  · split
    · exact .of_eq (congrArg Control.mode (t.typeChar_toControl _))
    · exact .refl _

theorem replaceSelection_entersNoVisual (text : Text) (c : Option Char) :
    t.mode.EntersNoVisual (t.replaceSelection text c).mode := by
  unfold replaceSelection
  split
  · exact .refl _
  · cases c <;> exact .of_other _ rfl

theorem selectKey_entersNoVisual (text : Text) (k : Key) :
    t.mode.EntersNoVisual (t.selectKey text k).mode := by
  unfold selectKey
  split
  · exact t.replaceSelection_entersNoVisual text none
  · split
    · exact t.replaceSelection_entersNoVisual text _
    · exact .refl _

end Turn

def Lookup.handler? : Lookup → Option Handler
  | found m .. =>
    match m.target with
    | .handler f => some f
    | .keys _ => none
  | pending | ambiguous | missing => none

theorem Lookup.exists_of_handler? {l : Lookup} {f : Handler} (h : l.handler? = some f) :
    ∃ m i n, l = found m i n ∧ m.target = .handler f := by
  unfold handler? at h
  split at h
  · next m i n =>
    refine ⟨m, i, n, rfl, ?_⟩
    split at h
    · next target => rw [target, Option.some.inj h]
    · contradiction
  all_goals contradiction

namespace Dispatch

variable {km : Keymap} {text : Text} {flush : Bool} {d d' x z : Dispatch} {f : Handler}

def handler? (km : Keymap) (flush : Bool) (d : Dispatch) : Option Handler :=
  if d.looksUp flush then (d.answer km flush).handler? else none

theorem exists_next_of_handler? (text : Text) (h : d.handler? km flush = some f) :
    ∃ d', d.next? km text flush = some d' ∧ d'.toTurn = d.toTurn.run text f ∧ d'.waiting = [] := by
  unfold handler? at h
  split at h
  · next hl =>
    obtain ⟨m, i, n, answer, target⟩ := Lookup.exists_of_handler? h
    have ran : d.next? km text flush = some (d.accept.apply text m n) := by
      rw [next?_of_looksUp hl, resolve_accept, answer]
    refine ⟨_, ran, ?_, ?_⟩
    · simp [apply, target]
    · simp [apply, target]
  · contradiction

theorem run_of_handler? (h : d.handler? km flush = some f)
    (next : d.next? km text flush = some d') :
    d'.toTurn = d.toTurn.run text f ∧ d'.waiting = [] := by
  obtain ⟨d₁, next₁, ran⟩ := exists_next_of_handler? text h
  obtain rfl := Option.some.inj (next₁.symm.trans next)
  exact ran

theorem escape_entersNoVisual (d : Dispatch) : d.mode.EntersNoVisual d.escape.mode := by
  unfold escape
  split
  · exact d.toControl.dropCommand_entersNoVisual
  · split
    · exact .of_exit d.mode
    · exact .refl _

theorem intercept?_entersNoVisual {k : Key} (h : d.intercept? k = some d') :
    d.mode.EntersNoVisual d'.mode := by
  cases (caught_of_intercept? h).2 with
  | escape code => exact d.escape_entersNoVisual
  | grows idle select grows => exact .refl _
  | refused idle select => exact d.fail_entersNoVisual

theorem unmapped_entersNoVisual (d : Dispatch) (text : Text) :
    d.mode.EntersNoVisual (d.unmapped text).mode := by
  unfold unmapped
  split
  · exact .refl _
  · split
    · exact d.insertKey_entersNoVisual _
    · split
      · exact d.selectKey_entersNoVisual text _
      · exact d.fail_entersNoVisual

theorem apply_entersNoVisual {m : Mapping} {ks : List Key} (d : Dispatch) (text : Text)
    (consumed : Nat) (target : m.target = .keys ks) :
    d.mode.EntersNoVisual (d.apply text m consumed).mode := by
  unfold apply
  rw [target]
  simp only
  split
  · exact d.fail_entersNoVisual
  · exact .refl _

theorem step_entersNoVisual (unhandled : d.handler? km flush = none)
    (hs : Step km text flush d d') : d.mode.EntersNoVisual d'.mode := by
  have accepted : d.accept.mode = d.mode := congrArg Control.mode (congrArg _ d.accept_toTurn)
  cases hs with
  | caught hq hc =>
    rename_i s queue
    exact intercept?_entersNoVisual (d := { d with queue }) hc
  | waits hl ha => exact .of_eq accepted
  | mapped hl ha =>
    rename_i m i n
    cases target : m.target with
    | keys ks => exact accepted ▸ d.accept.apply_entersNoVisual text n target
    | handler f => simp [handler?, hl, ha, Lookup.handler?, target] at unhandled
  | unmapped hl ha => exact accepted ▸ d.accept.unmapped_entersNoVisual text

def handlersRun (km : Keymap) (text : Text) (flush : Bool) (d : Dispatch) : List Handler :=
  (d.trace km text flush).filterMap (handler? km flush)

theorem handlersRun_of_some (h : d.next? km text flush = some d') :
    d.handlersRun km text flush =
      (d.handler? km flush).toList ++ d'.handlersRun km text flush := by
  rw [handlersRun, trace_of_some h, List.filterMap_cons]
  cases d.handler? km flush <;> rfl

theorem handlersRun_of_none (h : d.next? km text flush = none) :
    d.handlersRun km text flush = [] := by
  have unhandled : d.handler? km flush = none := by
    rw [Option.eq_none_iff_forall_ne_some]
    intro f handled
    obtain ⟨d', next, _⟩ := exists_next_of_handler? text handled
    exact absurd (h.symm.trans next) (by simp)
  rw [handlersRun, trace_of_none h, List.filterMap_cons, unhandled]
  rfl

theorem run_entersNoVisual (h : d.handlersRun km text flush = []) :
    d.mode.EntersNoVisual (d.run km text flush).mode := by
  induction d using turn_induction km text flush with
  | ended d ended =>
    rw [run_of_none ended]
    exact .refl _
  | step d d' next ih =>
    rw [handlersRun_of_some next, List.append_eq_nil_iff, Option.toList_eq_nil_iff] at h
    rw [run_of_some next]
    exact (step_entersNoVisual h.1 (step_of_next? next)).trans (ih h.2)

/-- In the turn from `d`, the step from `x` to `z` runs the handler. -/
structure Runs (km : Keymap) (text : Text) (flush : Bool) (d : Dispatch) (f : Handler)
    (x z : Dispatch) : Prop where
  moment : x ∈ d.trace km text flush
  handler : x.handler? km flush = some f
  next : x.next? km text flush = some z

theorem Runs.toTurn_eq (h : d.Runs km text flush f x z) : z.toTurn = x.toTurn.run text f :=
  (run_of_handler? h.handler h.next).1

theorem Runs.run_eq (h : d.Runs km text flush f x z) :
    d.run km text flush = z.run km text flush := by
  rw [← run_of_mem_trace h.moment, run_of_some h.next]

theorem Runs.run_eq_of_last (h : d.Runs km text flush f x z) (last : z.queue = []) :
    d.run km text flush = z := by
  rw [h.run_eq]
  exact run_of_none (next?_eq_none_iff.2 ⟨last, fun _ => (run_of_handler? h.handler h.next).2⟩)

theorem exists_runs_of_single (h : d.handlersRun km text flush = [f]) :
    ∃ x z, d.Runs km text flush f x z ∧ d.mode.EntersNoVisual x.mode ∧
      z.mode.EntersNoVisual (d.run km text flush).mode := by
  induction d using turn_induction km text flush with
  | ended d ended =>
    rw [handlersRun_of_none ended] at h
    contradiction
  | step d d' next ih =>
    rw [handlersRun_of_some next] at h
    cases handled : d.handler? km flush with
    | some g =>
      -- this is the only handler, so the rest of the turn runs none
      simp only [handled, Option.toList_some, List.singleton_append, List.cons.injEq] at h
      obtain ⟨rfl, rest⟩ := h
      refine ⟨d, d', ⟨mem_trace_self km text flush d, handled, next⟩, .refl _, ?_⟩
      rw [run_of_some next]
      exact run_entersNoVisual rest
    | none =>
      rw [handled, Option.toList_none, List.nil_append] at h
      obtain ⟨x, z, runs, before, after⟩ := ih h
      refine ⟨x, z, ⟨?_, runs.handler, runs.next⟩, ?_, ?_⟩
      · rw [trace_of_some next]
        exact List.mem_cons_of_mem d runs.moment
      · exact (step_entersNoVisual handled (step_of_next? next)).trans before
      · rw [run_of_some next]
        exact after

end Dispatch

namespace Editor

def handlersRun (e : Editor) (km : Keymap) (text : Text) (cursor : Nat) (c : Call) : List Handler :=
  (e.moments km text cursor c).filterMap (Dispatch.handler? km c.isFlush)

def Runs (e : Editor) (km : Keymap) (text : Text) (cursor : Nat) (c : Call) (f : Handler)
    (x z : Dispatch) : Prop :=
  match c with
  | .input i => (e.begin text cursor [{ key := i.toKey }]).Runs km text false f x z
  | .flush => (e.begin text cursor []).Runs km text true f x z
  | .abort => False

variable {e : Editor} {km : Keymap} {text : Text} {cursor : Nat} {c : Call} {f : Handler}
  {x z : Dispatch}

theorem Runs.toTurn_eq (h : e.Runs km text cursor c f x z) : z.toTurn = x.toTurn.run text f := by
  cases c with
  | input i => exact Dispatch.Runs.toTurn_eq h
  | flush => exact Dispatch.Runs.toTurn_eq h
  | abort => contradiction

theorem Runs.respond_eq (h : e.Runs km text cursor c f x z) (last : z.queue = []) :
    e.respond km text cursor c = z.response := by
  cases c with
  | input i => exact congrArg Dispatch.response (Dispatch.Runs.run_eq_of_last h last)
  | flush => exact congrArg Dispatch.response (Dispatch.Runs.run_eq_of_last h last)
  | abort => contradiction

/-- No Visual mode is entered before the only handler that a call runs, and none after it. -/
theorem exists_runs_of_single (h : e.handlersRun km text cursor c = [f]) :
    ∃ x z, e.Runs km text cursor c f x z ∧ e.mode.EntersNoVisual x.mode ∧
      z.mode.EntersNoVisual (e.respond km text cursor c).editor.mode := by
  cases c with
  | input i => exact Dispatch.exists_runs_of_single h
  | flush => exact Dispatch.exists_runs_of_single h
  | abort => contradiction

end Editor

end ModalEditing
