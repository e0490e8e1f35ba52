import ModalEditing.Editor.Dispatch
import ModalEditing.Proofs.KeymapLookup

/-! The steps of a turn, taken apart. A step either takes the next key before any mapping can,
or looks the waiting keys up with the next key among them; `Step` has one case for each
answer. `trace` lists the states of a turn from its start to its end, and what every step
keeps holds of all of them. -/

namespace ModalEditing

theorem Keymap.longest_of_find_found {km : Keymap} {mode : Mode} {strokes : List Stroke}
    {final : Bool} {m : Mapping} {i n : Nat} (h : km.find mode strokes final = .found m i n) :
    km.Longest mode.toModeSet (strokes.map Stroke.key) (strokes.head?.any fun s => !s.remap)
      m i := by
  unfold find at h
  cases final with
  | true => exact (longest_eq_found_iff.1 h).1
  | false =>
    simp only [Bool.false_eq_true, if_false] at h
    by_cases hk : strokes.map Stroke.key = []
    · rw [hk] at h
      contradiction
    · have still : ¬ km.GoesOn mode.toModeSet (strokes.map Stroke.key)
          (strokes.head?.any fun s => !s.remap) := by
        rw [← lookup_waits_iff hk, h]
        exact Bool.false_ne_true
      rw [lookup_eq_longest hk still] at h
      exact (longest_eq_found_iff.1 h).1

theorem handlersOnly_eq_false {strokes : List Stroke} (h : ∀ s ∈ strokes, s.remap = true) :
    (strokes.head?.any fun s => !s.remap) = false := by
  cases strokes with
  | nil => rfl
  | cons s rest => simp [h s]

/-- The key is no Escape, and no count and no register takes it. -/
def Key.isMappable (k : Key) : Bool :=
  k.code != .esc && k.printable?.all fun c => !c.isDigit && c != '\x22'

inductive CommandBuilder.Grows (b : CommandBuilder) : CommandBuilder → Prop where
  | digit {n : Nat} {b' : CommandBuilder} (pushed : b.pushDigit? n = some b') : Grows b b'
  | quote {b' : CommandBuilder} (started : b.startRegister? = some b') : Grows b b'
  | name {c : Char} {b' : CommandBuilder} (awaits : b.isAwaitingRegister)
      (set : b.setRegister c = .ok b') : Grows b b'

namespace Dispatch

inductive Caught (d : Dispatch) (k : Key) : Dispatch → Prop where
  | escape (code : k.code = .esc) : Caught d k d.escape
  | grows {b : CommandBuilder} (idle : d.waiting = []) (select : d.mode.isSelect = false)
      (grows : d.command.Grows b) : Caught d k { d with command := b }
  | refused (idle : d.waiting = []) (select : d.mode.isSelect = false) : Caught d k d.fail

/-- The next key, if there is one, joins the waiting ones. -/
def accept (d : Dispatch) : Dispatch :=
  match d.queue with
  | s :: queue => { d with queue, waiting := d.waiting ++ [s] }
  | [] => d

def answer (d : Dispatch) (km : Keymap) (flush : Bool) : Lookup :=
  km.find d.mode d.accept.waiting (flush && d.accept.queue.isEmpty)

def looksUp (d : Dispatch) (flush : Bool) : Bool :=
  match d.queue with
  | s :: queue => ({ d with queue }.intercept? s.key).isNone
  | [] => flush && d.waiting != []

inductive Step (km : Keymap) (text : Text) (flush : Bool) (d : Dispatch) : Dispatch → Prop where
  | caught {s : Stroke} {queue : List Stroke} {d' : Dispatch} (hq : d.queue = s :: queue)
      (hc : { d with queue }.intercept? s.key = some d') : Step km text flush d d'
  | waits (hl : d.looksUp flush) (ha : (d.answer km flush).waits) : Step km text flush d d.accept
  | mapped {m : Mapping} {i n : Nat} (hl : d.looksUp flush)
      (ha : d.answer km flush = .found m i n) : Step km text flush d (d.accept.apply text m n)
  | unmapped (hl : d.looksUp flush) (ha : d.answer km flush = .missing) :
      Step km text flush d (d.accept.unmapped text)

variable {km : Keymap} {text : Text} {flush : Bool} {d d' : Dispatch}

@[simp] theorem accept_toTurn (d : Dispatch) : d.accept.toTurn = d.toTurn := by
  unfold accept
  split <;> rfl

@[simp] theorem accept_budget (d : Dispatch) : d.accept.budget = d.budget := by
  unfold accept
  split <;> rfl

theorem accept_keys (d : Dispatch) :
    d.accept.waiting ++ d.accept.queue = d.waiting ++ d.queue := by
  unfold accept
  split
  · next s queue hq => simp [hq]
  · rfl

theorem longest_of_answer {m : Mapping} {i n : Nat} (ha : d.answer km flush = .found m i n) :
    km.Longest d.mode.toModeSet (d.accept.waiting.map Stroke.key)
      (d.accept.waiting.head?.any fun s => !s.remap) m i :=
  Keymap.longest_of_find_found ha

theorem consumed_of_answer {m : Mapping} {i n : Nat} (ha : d.answer km flush = .found m i n) :
    n = m.keys.length :=
  Keymap.consumed_of_find ha

theorem mapping_of_answer {m : Mapping} {i n : Nat} (ha : d.answer km flush = .found m i n) :
    m ∈ km.mappings ∧ m.modes.meets d.mode.toModeSet := by
  have found := longest_of_answer ha
  have applies := found.applies
  rw [Mapping.applies, Bool.and_eq_true] at applies
  exact ⟨List.mem_of_getElem? found.getElem?, applies.1⟩

theorem uncaught_of_looksUp {s : Stroke} {queue : List Stroke} (hl : d.looksUp flush)
    (hq : d.queue = s :: queue) : { d with queue }.intercept? s.key = none := by
  simpa [looksUp, hq] using hl

theorem flush_of_looksUp (hl : d.looksUp flush) (hq : d.queue = []) :
    flush = true ∧ d.waiting ≠ [] := by
  simpa [looksUp, hq] using hl

theorem caught_of_intercept? {k : Key} (h : d.intercept? k = some d') :
    d.mode.isTyping = false ∧ d.Caught k d' := by
  unfold intercept? at h
  split at h
  · contradiction
  next commands =>
  refine ⟨Bool.eq_false_iff.2 commands, ?_⟩
  split at h
  · next code =>
    obtain rfl := Option.some.inj h
    exact .escape code
  split at h
  · contradiction
  next idle =>
  simp only [not_or, Decidable.not_not, Bool.not_eq_true] at idle
  obtain ⟨waiting, select⟩ := idle
  split at h
  · next awaits =>
    obtain rfl := Option.some.inj h
    unfold nameRegister
    split
    · next b named =>
      obtain ⟨c, _, set⟩ := Option.map_eq_some_iff.1 named
      exact .grows waiting select (.name awaits set)
    · exact .refused waiting select
    · exact .refused waiting select
  · obtain ⟨c, _, counted⟩ := Option.bind_eq_some_iff.1 h
    unfold count? at counted
    split at counted
    · next b pushed =>
      obtain rfl := Option.some.inj counted
      obtain ⟨n, _, push⟩ := Option.bind_eq_some_iff.1 pushed
      exact .grows waiting select (.digit push)
    · split at counted
      · obtain ⟨b, start, rfl⟩ := Option.map_eq_some_iff.1 counted
        exact .grows waiting select (.quote start)
      · contradiction

theorem intercept?_of_mappable {k : Key} (hk : k.isMappable)
    (named : d.command.isAwaitingRegister = false) : d.intercept? k = none := by
  simp only [Key.isMappable, Bool.and_eq_true, bne_iff_ne] at hk
  unfold intercept?
  split
  · rfl
  · rw [if_neg hk.1]
    split
    · rfl
    · rw [if_neg (Bool.eq_false_iff.1 named)]
      cases hc : k.printable? with
      | none => rfl
      | some c =>
        simp only [hc, Option.all_some, Bool.and_eq_true, Bool.not_eq_true', bne_iff_ne] at hk
        simp [count?, digit?, hk.2]

theorem accept_waiting_ne_nil (hl : d.looksUp flush) : d.accept.waiting ≠ [] := by
  unfold accept
  split
  · simp
  · next hq => exact (flush_of_looksUp hl hq).2

theorem resolve_accept (d : Dispatch) (km : Keymap) (text : Text) (flush : Bool) :
    d.accept.resolve km text (flush && d.accept.queue.isEmpty) =
      match d.answer km flush with
      | .pending | .ambiguous => d.accept
      | .found m _ consumed => d.accept.apply text m consumed
      | .missing => d.accept.unmapped text := by
  have mode : d.accept.mode = d.mode := by rw [Control.mode, Control.mode, accept_toTurn]
  have found : km.find d.accept.mode d.accept.waiting (flush && d.accept.queue.isEmpty) =
      d.answer km flush := by rw [mode, answer]
  rw [← found]
  rfl

theorem next?_of_caught {s : Stroke} {queue : List Stroke}
    (hq : d.queue = s :: queue) (hc : { d with queue }.intercept? s.key = some d') :
    d.next? km text flush = some d' := by
  unfold next?
  rw [hq]
  simp only [hc]

theorem next?_of_looksUp (hl : d.looksUp flush) :
    d.next? km text flush =
      some (d.accept.resolve km text (flush && d.accept.queue.isEmpty)) := by
  cases hq : d.queue with
  | cons s queue => simp only [next?, accept, hq, uncaught_of_looksUp hl hq]
  | nil => simp [next?, accept, hq, flush_of_looksUp hl hq]

theorem step_of_looksUp (hl : d.looksUp flush)
    (h : d.accept.resolve km text (flush && d.accept.queue.isEmpty) = d') :
    Step km text flush d d' := by
  rw [resolve_accept] at h
  subst h
  cases ha : d.answer km flush with
  | found m i n => exact .mapped hl ha
  | pending => exact .waits hl (by rw [ha]; rfl)
  | ambiguous => exact .waits hl (by rw [ha]; rfl)
  | missing => exact .unmapped hl ha

theorem step_of_next? (h : d.next? km text flush = some d') : Step km text flush d d' := by
  by_cases hl : d.looksUp flush
  · rw [next?_of_looksUp hl] at h
    exact step_of_looksUp hl (Option.some.inj h)
  · unfold next? at h
    split at h
    · next s queue hq =>
      split at h
      · next d₁ hi =>
        obtain rfl := Option.some.inj h
        exact .caught hq hi
      · next hi => exact absurd (by simp [looksUp, hq, hi]) hl
    · next hq =>
      split at h
      · next hf => exact absurd (by simp [looksUp, hq, hf.1, hf.2]) hl
      · contradiction

theorem next?_eq_none_iff :
    d.next? km text flush = none ↔ d.queue = [] ∧ (flush = true → d.waiting = []) := by
  unfold next?
  split
  · next s queue hq => split <;> simp [hq]
  · next hq => cases flush <;> simp [hq]

def trace (km : Keymap) (text : Text) (flush : Bool) (d : Dispatch) : List Dispatch :=
  match _h : d.next? km text flush with
  | some d' => d :: trace km text flush d'
  | none => [d]
termination_by d.measure
decreasing_by exact next?_lt _h

theorem trace_of_some (h : d.next? km text flush = some d') :
    d.trace km text flush = d :: d'.trace km text flush := by
  rw [trace]
  split
  · next d₁ h₁ =>
    obtain rfl := Option.some.inj (h.symm.trans h₁)
    rfl
  · next h₁ => exact absurd (h.symm.trans h₁) (by simp)

theorem trace_of_none (h : d.next? km text flush = none) : d.trace km text flush = [d] := by
  rw [trace]
  split
  · next d₁ h₁ => exact absurd (h.symm.trans h₁) (by simp)
  · rfl

theorem run_of_some (h : d.next? km text flush = some d') :
    d.run km text flush = d'.run km text flush := by
  rw [run]
  split
  · next d₁ h₁ =>
    obtain rfl := Option.some.inj (h.symm.trans h₁)
    rfl
  · next h₁ => exact absurd (h.symm.trans h₁) (by simp)

theorem run_of_none (h : d.next? km text flush = none) : d.run km text flush = d := by
  rw [run]
  split
  · next d₁ h₁ => exact absurd (h.symm.trans h₁) (by simp)
  · rfl

theorem run_of_empty (hq : d.queue = []) : d.run km text false = d :=
  run_of_none (next?_eq_none_iff.2 ⟨hq, Bool.false_ne_true.elim⟩)

theorem run_of_caught {s : Stroke} (hq : d.queue = [s])
    (hc : { d with queue := [] }.intercept? s.key = some d') : d.run km text false = d' := by
  rw [run_of_some (next?_of_caught hq hc)]
  exact run_of_empty (intercept?_eq hc).2.1

theorem turn_induction {P : Dispatch → Prop} (km : Keymap) (text : Text) (flush : Bool)
    (ended : ∀ d, d.next? km text flush = none → P d)
    (step : ∀ d d', d.next? km text flush = some d' → P d' → P d) (d : Dispatch) : P d := by
  induction d using run.induct km text flush with
  | case1 d d' h ih => exact step d d' h ih
  | case2 d h => exact ended d h

theorem mem_trace_self (km : Keymap) (text : Text) (flush : Bool) (d : Dispatch) :
    d ∈ d.trace km text flush := by
  cases h : d.next? km text flush with
  | some d' => simp [trace_of_some h]
  | none => simp [trace_of_none h]

theorem run_mem_trace (km : Keymap) (text : Text) (flush : Bool) (d : Dispatch) :
    d.run km text flush ∈ d.trace km text flush := by
  induction d using turn_induction km text flush with
  | ended d h => simp [run_of_none h, trace_of_none h]
  | step d d' h ih =>
    rw [run_of_some h, trace_of_some h]
    exact List.mem_cons_of_mem d ih

theorem next?_run (km : Keymap) (text : Text) (flush : Bool) (d : Dispatch) :
    (d.run km text flush).next? km text flush = none := by
  induction d using turn_induction km text flush with
  | ended d h => rw [run_of_none h, h]
  | step d d' h ih => rw [run_of_some h, ih]

/-- A turn ends in the same way from each of its states. -/
theorem run_of_mem_trace {x : Dispatch} (hx : x ∈ d.trace km text flush) :
    x.run km text flush = d.run km text flush := by
  induction d using turn_induction km text flush with
  | ended d h =>
    rw [trace_of_none h, List.mem_singleton] at hx
    rw [hx]
  | step d d' h ih =>
    rw [trace_of_some h, List.mem_cons] at hx
    rcases hx with rfl | hx
    · rfl
    · rw [ih hx, run_of_some h]

theorem trace_invariant (km : Keymap) (text : Text) (flush : Bool) {P : Dispatch → Prop}
    (keep : ∀ d d', P d → Step km text flush d d' → P d') (hd : P d) :
    ∀ x ∈ d.trace km text flush, P x := by
  induction d using turn_induction km text flush with
  | ended d h => simpa [trace_of_none h] using hd
  | step d d' h ih =>
    rw [trace_of_some h, List.forall_mem_cons]
    exact ⟨hd, ih (keep d d' hd (step_of_next? h))⟩

theorem run_invariant (km : Keymap) (text : Text) (flush : Bool) {P : Dispatch → Prop}
    (keep : ∀ d d', P d → Step km text flush d d' → P d') (hd : P d) :
    P (d.run km text flush) :=
  trace_invariant km text flush keep hd _ (run_mem_trace km text flush d)

end Dispatch

end ModalEditing
