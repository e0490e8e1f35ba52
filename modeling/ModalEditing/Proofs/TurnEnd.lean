import Mathlib.Data.List.Chain
import ModalEditing.Proofs.DispatchSteps

/-! How a turn ends. Every turn ends, after no more key-to-key mappings than the limit allows.
Keys still wait after it only where a longer mapping is in reach, and none wait after a
flush. A turn that would pass the limit rings the bell last and leaves nothing behind. -/

namespace ModalEditing

namespace Control

@[simp] theorem dropCommand_command (c : Control) : c.dropCommand.command = {} := by
  unfold dropCommand
  simp only
  split <;> rfl

theorem dropCommand_of_settled {c : Control} (h : c.mode.isOperatorPending = false) :
    c.dropCommand = { c with command := {} } :=
  if_neg (Bool.eq_false_iff.1 h)

theorem dropCommand_not_pending (c : Control) : c.dropCommand.mode.isOperatorPending = false := by
  unfold dropCommand
  simp only
  split
  · next pending =>
    cases hm : c.modes.mode with
    | operatorPending next =>
      simp only [transition, ModeState.transition, mode, hm, Mode.after, Mode.base]
      cases next <;> rfl
    | _ => simp [mode, hm, Mode.isOperatorPending] at pending
  · next still => exact Bool.eq_false_iff.2 still

end Control

namespace Dispatch

variable {km : Keymap} {text : Text} {flush : Bool} {d d' : Dispatch}

def remaps (km : Keymap) (flush : Bool) (d : Dispatch) : Bool :=
  d.looksUp flush &&
    match d.answer km flush with
    | .found m .. => !m.isHandler
    | _ => false

def expands (km : Keymap) (flush : Bool) (d : Dispatch) : Bool :=
  d.remaps km flush && 0 < d.budget

def overruns (km : Keymap) (flush : Bool) (d : Dispatch) : Bool :=
  d.remaps km flush && d.budget == 0

theorem not_looksUp_of_caught {s : Stroke} {queue : List Stroke} (hq : d.queue = s :: queue)
    (hc : { d with queue }.intercept? s.key = some d') : d.looksUp flush = false := by
  simp [looksUp, hq, hc]

theorem unmapped_budget (d : Dispatch) (text : Text) : (d.unmapped text).budget = d.budget := by
  unfold unmapped
  split
  · rfl
  · split
    · rfl
    · split <;> rfl

theorem apply_budget (d : Dispatch) (text : Text) (m : Mapping) (consumed : Nat) :
    (d.apply text m consumed).budget + (if !m.isHandler && 0 < d.budget then 1 else 0) = d.budget := by
  unfold apply Mapping.isHandler
  cases m.target with
  | handler h => simp
  | keys ks => cases hb : d.budget <;> simp [fail, hb]

/-- A step uses up one of the mappings left exactly if it applies one. -/
theorem step_budget (h : Step km text flush d d') :
    d'.budget + (if d.expands km flush then 1 else 0) = d.budget := by
  cases h with
  | caught hq hc =>
    have same := (intercept?_eq hc).1
    simp [expands, remaps, not_looksUp_of_caught hq hc, same]
  | waits hl ha =>
    cases hf : d.answer km flush with
    | found m i n => simp [hf, Lookup.waits] at ha
    | _ => simp [expands, remaps, hf]
  | mapped hl ha =>
    have := apply_budget d.accept text
    simp only [accept_budget] at this
    simp only [expands, remaps, hl, ha, Bool.true_and, this]
  | unmapped hl ha => simp [expands, remaps, ha, unmapped_budget]

theorem countP_expands (km : Keymap) (text : Text) (flush : Bool) (d : Dispatch) :
    (d.trace km text flush).countP (expands km flush) + (d.run km text flush).budget =
      d.budget := by
  induction d using turn_induction km text flush with
  | ended d h =>
    have idle : d.looksUp flush = false := by
      by_contra hl
      rw [next?_of_looksUp (Bool.not_eq_false _ ▸ hl)] at h
      contradiction
    rw [trace_of_none h, run_of_none h]
    simp [expands, remaps, idle]
  | step d d' h ih =>
    have used := step_budget (step_of_next? h)
    rw [trace_of_some h, run_of_some h, List.countP_cons]
    omega

theorem head?_trace (km : Keymap) (text : Text) (flush : Bool) (d : Dispatch) :
    (d.trace km text flush).head? = some d := by
  cases h : d.next? km text flush with
  | some d' => rw [trace_of_some h, List.head?_cons]
  | none => rw [trace_of_none h, List.head?_cons]

theorem isChain_trace (km : Keymap) (text : Text) (flush : Bool) (d : Dispatch) :
    (d.trace km text flush).IsChain fun x y => x.next? km text flush = some y := by
  induction d using turn_induction km text flush with
  | ended d h => simp [trace_of_none h]
  | step d d' h ih =>
    rw [trace_of_some h]
    refine List.isChain_cons.2 ⟨?_, ih⟩
    intro y hy
    rw [head?_trace, Option.mem_def, Option.some.injEq] at hy
    rw [h, hy]

theorem getLast?_trace (km : Keymap) (text : Text) (flush : Bool) (d : Dispatch) :
    (d.trace km text flush).getLast? = some (d.run km text flush) := by
  induction d using turn_induction km text flush with
  | ended d h => simp [trace_of_none h, run_of_none h]
  | step d d' h ih =>
    rw [trace_of_some h, run_of_some h, List.getLast?_cons, ih]
    rfl

def Settled (km : Keymap) (mode : Mode) (waiting : List Stroke) : Prop :=
  waiting = [] ∨ (km.find mode waiting false).waits

theorem intercept?_waiting {k : Key} (h : d.intercept? k = some d') : d'.waiting = [] := by
  cases (caught_of_intercept? h).2 with
  | escape code =>
    unfold escape
    split
    · rfl
    · next idle =>
      have none_waits : d.waiting = [] := by
        by_contra hw
        exact idle (Or.inl hw)
      split <;> exact none_waits
  | grows idle select grows => exact idle
  | refused idle select => rfl

theorem apply_waiting (d : Dispatch) (text : Text) (m : Mapping) (consumed : Nat) :
    (d.apply text m consumed).waiting = [] := by
  unfold apply
  split
  · rfl
  · split <;> rfl

theorem unmapped_waiting (d : Dispatch) (text : Text) : (d.unmapped text).waiting = [] := by
  unfold unmapped
  split
  · next none_waits => exact none_waits
  · split
    · rfl
    · split <;> rfl

theorem step_settled (h : Step km text flush d d') : Settled km d'.mode d'.waiting := by
  cases h with
  | caught hq hc => exact Or.inl (intercept?_waiting hc)
  | waits hl ha =>
    have more := km.final_of_find_waits ha
    rw [answer, more] at ha
    refine Or.inr ?_
    rw [Control.mode, accept_toTurn]
    exact ha
  | mapped hl ha => exact Or.inl (apply_waiting _ text _ _)
  | unmapped hl ha => exact Or.inl (unmapped_waiting _ text)

theorem run_settled (km : Keymap) (text : Text) (flush : Bool) (hq : d.queue ≠ []) :
    Settled km (d.run km text flush).mode (d.run km text flush).waiting := by
  have done := (next?_eq_none_iff.1 (next?_run km text flush d)).1
  have kept := run_invariant km text flush
    (P := fun x => x.queue ≠ [] ∨ Settled km x.mode x.waiting)
    (fun _ _ _ h => Or.inr (step_settled h)) (Or.inl hq)
  exact kept.resolve_left (not_not_intro done)

structure Cleared (d : Dispatch) : Prop where
  bell : d.actions.back? = some .bell
  queue : d.queue = []
  waiting : d.waiting = []
  command : d.command = {}
  mode : d.mode.isOperatorPending = false

theorem cleared_fail (d : Dispatch) : Cleared { d.fail with queue := [] } where
  bell := by simp [fail, Turn.fail, Turn.emit]
  queue := rfl
  waiting := rfl
  command := by simp [fail, Turn.fail, Turn.emit]
  mode := d.dropCommand_not_pending

theorem next?_of_overruns (text : Text) (h : d.overruns km flush) :
    d.next? km text flush = some { d.accept.fail with queue := [] } := by
  simp only [overruns, remaps, Bool.and_eq_true, beq_iff_eq] at h
  obtain ⟨⟨hl, hm⟩, hb⟩ := h
  rw [next?_of_looksUp hl, resolve_accept]
  split at hm
  · next m i n ha =>
    simp only [ha]
    cases ht : m.target with
    | handler h => simp [Mapping.isHandler, ht] at hm
    | keys ks => simp [apply, ht, hb]
  · contradiction

theorem run_of_overruns (text : Text) (h : d.overruns km flush) :
    d.run km text flush = { d.accept.fail with queue := [] } := by
  rw [run_of_some (next?_of_overruns text h), run_of_none]
  exact next?_eq_none_iff.2 ⟨rfl, fun _ => rfl⟩

/-- The states of the turn from `d` lead step by step to its outcome, and few of the steps
apply key-to-key mappings. A turn that would pass their limit is cleared. -/
structure Ends (km : Keymap) (text : Text) (flush : Bool) (d : Dispatch) : Prop where
  start : (d.trace km text flush).head? = some d
  stepwise : (d.trace km text flush).IsChain fun x y => x.next? km text flush = some y
  outcome : (d.trace km text flush).getLast? = some (d.run km text flush)
  ended : (d.run km text flush).next? km text flush = none
  expansions : (d.trace km text flush).countP (expands km flush) ≤ d.budget
  cleared : ∀ x ∈ d.trace km text flush, x.overruns km flush → Cleared (d.run km text flush)

theorem ends (km : Keymap) (text : Text) (flush : Bool) (d : Dispatch) : d.Ends km text flush where
  start := head?_trace km text flush d
  stepwise := isChain_trace km text flush d
  outcome := getLast?_trace km text flush d
  ended := next?_run km text flush d
  expansions := by
    have used := countP_expands km text flush d
    omega
  cleared := by
    intro x hx hover
    rw [← run_of_mem_trace hx, run_of_overruns text hover]
    exact cleared_fail x.accept

end Dispatch

/-- Every call of an editor ends within the limit, with no keys waiting but such as a longer
mapping may still need; after a flush none wait. -/
theorem Editor.turns_end_settled (e : Editor) (km : Keymap) (text : Text) (cursor : Nat) :
    (∀ i : Input,
      let d := e.begin text cursor [{ key := i.toKey }]
      let r := e.handle km text cursor i
      d.budget = expansionLimit ∧ d.Ends km text false ∧
        (d.run km text false).response = r ∧
        (r.editor.waiting = [] ∨ (km.find r.editor.mode r.editor.waiting false).waits)) ∧
    (let d := e.begin text cursor []
      let r := e.flush km text cursor
      d.budget = expansionLimit ∧ d.Ends km text true ∧
        (d.run km text true).response = r ∧ r.editor.waiting = []) := by
  refine ⟨fun i => ⟨rfl, Dispatch.ends .., rfl, ?_⟩, rfl, Dispatch.ends .., rfl, ?_⟩
  · exact Dispatch.run_settled km text false (by simp [begin])
  · exact (Dispatch.next?_eq_none_iff.1 (Dispatch.next?_run km text true _)).2 rfl

end ModalEditing
