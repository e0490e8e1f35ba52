import ModalEditing.Proofs.ControlState
import ModalEditing.Proofs.TurnEnd

/-! Turns with the standard keymap. None of its mappings goes on from another one, and those
that produce keys spell out a handler. So one call runs one handler at most, and its last key
is resolved as soon as that handler is found. -/

namespace ModalEditing

def Mapping.produced? (m : Mapping) : Option (List Key) :=
  match m.target with
  | .keys ks => some ks
  | .handler _ => none

theorem Mapping.applies_false (m : Mapping) (modes : ModeSet) :
    m.applies modes false = m.modes.meets modes := by
  simp [applies]

theorem ModeSet.meets_of_mode {a b : ModeSet} {mode : Mode} (ha : a.meets mode.toModeSet)
    (hb : b.meets mode.toModeSet) : a.meets b := by
  cases mode <;> simp_all [Mode.toModeSet, meets]

/-- The mapping spells a handler with a key that no keyboard has, followed by characters. -/
def Mapping.Plugged (m : Mapping) : Prop :=
  m.isHandler ∧ m.firstKey.code = .plug ∧ ∀ k ∈ m.keys, k.code ≠ .esc

instance (m : Mapping) : Decidable m.Plugged := inferInstanceAs (Decidable (_ ∧ _ ∧ _))

namespace Keymap

theorem standard_exclusive : ∀ m ∈ standard.mappings, ∀ m' ∈ standard.mappings,
    m.modes.meets m'.modes → m.keys <+: m'.keys → m.keys.length = m'.keys.length := by
  decide +kernel

theorem standard_typed : ∀ m ∈ standard.mappings,
    m.modes.insert = false ∧ (m.modes.select → m.keys.length = 1) := by
  decide +kernel

theorem standard_produced : ∀ m ∈ standard.mappings, ∀ ks ∈ m.produced?,
    m.remap = true ∧ ∃ m' ∈ standard.mappings, m'.modes = m.modes ∧ m'.keys = ks ∧ m'.Plugged := by
  decide +kernel

theorem standard_commands {m : Mapping} {mode : Mode} (hm : m ∈ standard.mappings)
    (meets : m.modes.meets mode.toModeSet) (long : 1 < m.keys.length) :
    mode.isTyping = false ∧ mode.isSelect = false := by
  obtain ⟨insert, select⟩ := standard_typed m hm
  cases mode with
  | insert => simp [Mode.toModeSet, ModeSet.meets, insert] at meets
  | replace => simp [Mode.toModeSet, ModeSet.meets, insert] at meets
  | select shape next =>
    have one := select (by simpa [Mode.toModeSet, ModeSet.meets] using meets)
    omega
  | _ => exact ⟨rfl, rfl⟩

end Keymap

namespace Dispatch

variable {text : Text} {flush : Bool} {d d' : Dispatch}

structure Spent (d : Dispatch) : Prop where
  queue : d.queue = []
  waiting : d.waiting = []

/-- No handler has been found yet. The keys that wait are the start of one, and further keys
are there only where they and the waiting ones spell a handler. -/
structure Undecided (d : Dispatch) : Prop where
  remap : ∀ s ∈ d.waiting ++ d.queue, s.remap = true
  goesOn : d.waiting ≠ [] →
    Keymap.standard.GoesOn d.mode.toModeSet (d.waiting.map Stroke.key) false
  spelled : d.queue.length ≤ 1 ∨ ∃ m ∈ Keymap.standard.mappings,
    m.modes.meets d.mode.toModeSet ∧ m.keys = (d.waiting ++ d.queue).map Stroke.key ∧ m.Plugged
  named : d.waiting ≠ [] ∨ 1 < d.queue.length → d.command.isAwaitingRegister = false

theorem Undecided.commands (h : d.Undecided) (more : d.waiting ≠ [] ∨ 1 < d.queue.length) :
    d.mode.isTyping = false ∧ d.mode.isSelect = false := by
  rcases more with waits | long
  · obtain ⟨m, hm, applies, _, longer⟩ := h.goesOn waits
    rw [Mapping.applies_false] at applies
    have some_wait := List.length_pos_iff.2 waits
    rw [List.length_map] at longer
    exact Keymap.standard_commands hm applies (by omega)
  · rcases h.spelled with short | ⟨m, hm, meets, keys, _⟩
    · omega
    · refine Keymap.standard_commands hm meets ?_
      rw [keys, List.length_map, List.length_append]
      omega

theorem Undecided.handlersOnly (h : d.Undecided) :
    (d.accept.waiting.head?.any fun s => !s.remap) = false := by
  have remap := h.remap
  rw [← accept_keys] at remap
  exact handlersOnly_eq_false fun s hs => remap s (List.mem_append_left _ hs)

theorem Undecided.uncaught (h : d.Undecided) {s : Stroke} {queue : List Stroke}
    (hq : d.queue = s :: queue) (more : queue ≠ []) : { d with queue }.intercept? s.key = none := by
  have some_more := List.length_pos_iff.2 more
  have long : 1 < d.queue.length := by rw [hq, List.length_cons]; omega
  obtain ⟨typing, select⟩ := h.commands (Or.inr long)
  have named := h.named (Or.inr long)
  rcases h.spelled with short | ⟨m, hm, meets, keys, _, plug, escapes⟩
  · omega
  · have code : s.key.code ≠ .esc := escapes s.key (by simp [keys, hq])
    unfold intercept?
    rw [if_neg (by simp [Control.mode] at typing ⊢; exact typing), if_neg code]
    split
    · rfl
    · next idle =>
      simp only [not_or, Decidable.not_not] at idle
      have first := m.head?_keys
      rw [keys, hq, idle.1] at first
      have unprintable : s.key.printable? = none := by
        rw [Key.printable?, Option.some.inj first, plug]
      rw [if_neg (by rw [named]; exact Bool.false_ne_true), unprintable]
      rfl

theorem Undecided.named_of_looksUp (h : d.Undecided) (hl : d.looksUp flush)
    (typing : d.mode.isTyping = false) (select : d.mode.isSelect = false) :
    d.command.isAwaitingRegister = false := by
  by_cases waits : d.waiting = []
  · cases hq : d.queue with
    | nil => exact absurd waits (flush_of_looksUp hl hq).2
    | cons s queue =>
      have uncaught := uncaught_of_looksUp hl hq
      rw [Bool.eq_false_iff]
      intro awaits
      unfold intercept? at uncaught
      rw [if_neg (Bool.eq_false_iff.1 typing)] at uncaught
      split at uncaught
      · contradiction
      · rw [if_neg (not_or.2 ⟨not_not_intro waits, Bool.eq_false_iff.1 select⟩)] at uncaught
        contradiction
  · exact h.named (Or.inl waits)

theorem accept_queue_length (d : Dispatch) : d.accept.queue.length = d.queue.length - 1 := by
  unfold accept
  split
  · next s queue hq => rw [hq, List.length_cons, Nat.add_sub_cancel]
  · next hq => rw [hq]; rfl

theorem Undecided.waits_iff (h : d.Undecided) (hl : d.looksUp flush) :
    (d.answer Keymap.standard flush).waits ↔
      (flush && d.accept.queue.isEmpty) = false ∧
        Keymap.standard.GoesOn d.mode.toModeSet (d.accept.waiting.map Stroke.key) false := by
  have some_wait : d.accept.waiting.map Stroke.key ≠ [] := by
    simpa using accept_waiting_ne_nil hl
  rw [answer, Keymap.find, h.handlersOnly]
  cases flush && d.accept.queue.isEmpty with
  | true => simp
  | false => simp [Keymap.lookup_waits_iff some_wait]

theorem Undecided.waits_of_queue (h : d.Undecided) (hl : d.looksUp flush)
    (more : d.accept.queue ≠ []) : (d.answer Keymap.standard flush).waits := by
  have left := List.length_pos_iff.2 more
  have length := d.accept_queue_length
  rw [h.waits_iff hl]
  refine ⟨by simp [more], ?_⟩
  rcases h.spelled with short | ⟨m, hm, meets, keys, _⟩
  · omega
  · rw [← accept_keys, List.map_append] at keys
    refine ⟨m, hm, by rw [Mapping.applies_false]; exact meets, ⟨_, keys.symm⟩, ?_⟩
    rw [keys, List.length_append, List.length_map, List.length_map]
    omega

theorem Undecided.not_within {m : Mapping} (h : d.Undecided) (hm : m ∈ Keymap.standard.mappings)
    (meets : m.modes.meets d.mode.toModeSet) : ¬ m.keys <+: d.waiting.map Stroke.key := by
  intro start
  have waits : d.waiting ≠ [] := by
    intro idle
    rw [idle] at start
    exact m.keys_ne_nil (List.prefix_nil.1 start)
  obtain ⟨m', hm', applies, goes, longer⟩ := h.goesOn waits
  rw [Mapping.applies_false] at applies
  have same := Keymap.standard_exclusive m hm m' hm' (ModeSet.meets_of_mode meets applies)
    (start.trans goes)
  have := start.length_le
  omega

theorem Undecided.keys_of_found {m : Mapping} {i n : Nat} (h : d.Undecided)
    (ha : d.answer Keymap.standard flush = .found m i n) :
    m.keys = d.accept.waiting.map Stroke.key := by
  obtain ⟨hm, meets⟩ := mapping_of_answer ha
  have start := (longest_of_answer ha).isPrefix
  have still := h.not_within hm meets
  unfold accept at start ⊢
  split at start
  · next s queue hq =>
    rw [List.map_append, List.map_singleton] at start
    rcases List.prefix_concat_iff.1 start with all | within
    · rw [all, List.map_append, List.map_singleton]
    · exact absurd within still
  · exact absurd start still

theorem Undecided.drop_of_found {m : Mapping} {i n : Nat} (h : d.Undecided)
    (ha : d.answer Keymap.standard flush = .found m i n) : d.accept.waiting.drop n = [] := by
  rw [consumed_of_answer ha, h.keys_of_found ha, List.length_map, List.drop_length]

theorem Undecided.waits (h : d.Undecided) (hl : d.looksUp flush)
    (ha : (d.answer Keymap.standard flush).waits) : d.accept.Undecided := by
  obtain ⟨_, goes⟩ := (h.waits_iff hl).1 ha
  have length := d.accept_queue_length
  refine ⟨?_, ?_, ?_, ?_⟩
  · rw [accept_keys]
    exact h.remap
  · rw [Control.mode, accept_toTurn]
    exact fun _ => goes
  · rw [accept_keys, Control.mode, accept_toTurn]
    exact h.spelled.imp_left (by omega)
  · intro _
    obtain ⟨m, hm, applies, _, longer⟩ := goes
    have some_wait := List.length_pos_iff.2 (accept_waiting_ne_nil hl)
    rw [Mapping.applies_false] at applies
    rw [List.length_map] at longer
    obtain ⟨typing, select⟩ := Keymap.standard_commands hm applies (by omega)
    rw [accept_toTurn]
    exact h.named_of_looksUp hl typing select

theorem Undecided.last_of_answer (h : d.Undecided) (hl : d.looksUp flush)
    (ha : (d.answer Keymap.standard flush).waits = false) : d.accept.queue = [] := by
  by_contra more
  have waits := h.waits_of_queue hl more
  rw [ha] at waits
  contradiction

theorem Undecided.handled {m : Mapping} {i n : Nat} (h : d.Undecided) (hl : d.looksUp flush)
    (ha : d.answer Keymap.standard flush = .found m i n) (handler : m.isHandler) :
    (d.accept.apply text m n).Spent := by
  have last := h.last_of_answer hl (by rw [ha]; rfl)
  have all := h.drop_of_found ha
  refine ⟨?_, apply_waiting _ text m n⟩
  cases target : m.target with
  | handler f => simp [apply, target, last, all]
  | keys ks => simp [Mapping.isHandler, target] at handler

theorem Undecided.mapped {m : Mapping} {i n : Nat} (h : d.Undecided) (hl : d.looksUp flush)
    (ha : d.answer Keymap.standard flush = .found m i n) :
    (d.accept.apply text m n).Spent ∨
      (d.accept.apply text m n).Undecided ∧ (d.accept.apply text m n).toTurn = d.toTurn := by
  obtain ⟨hm, meets⟩ := mapping_of_answer ha
  have last := h.last_of_answer hl (by rw [ha]; rfl)
  have all := h.drop_of_found ha
  cases target : m.target with
  | handler f => exact Or.inl (h.handled hl ha (by rw [Mapping.isHandler, target]))
  | keys ks =>
    obtain ⟨remap, m', hm', modes, keys, plugged⟩ :=
      Keymap.standard_produced m hm ks (by simp [Mapping.produced?, target])
    cases budget : d.budget with
    | zero =>
      refine Or.inl ⟨?_, apply_waiting _ text m n⟩
      simp [apply, target, budget]
    | succ left =>
      have spelled : d.accept.apply text m n =
          { d.accept with waiting := [], queue := ks.map fun key => ⟨key, true⟩, budget := left } := by
        simp [apply, target, budget, last, all, remap]
      rw [← modes] at meets
      rw [spelled]
      -- the produced keys are just those of the mapping `m'`, so all of them spell a handler
      refine Or.inr ⟨⟨?_, fun waits => absurd rfl waits, Or.inr ⟨m', hm', ?_, ?_, plugged⟩, ?_⟩, ?_⟩
      · simp
      · rw [Control.mode, accept_toTurn]
        exact meets
      · simp [keys, Function.comp_def]
      · rintro (waits | long)
        · exact absurd rfl waits
        · rw [List.length_map, ← keys] at long
          obtain ⟨typing, select⟩ := Keymap.standard_commands hm' meets long
          rw [accept_toTurn]
          exact h.named_of_looksUp hl typing select
      · exact accept_toTurn d

theorem Undecided.unmapped (h : d.Undecided) (hl : d.looksUp flush)
    (ha : d.answer Keymap.standard flush = .missing) : (d.accept.unmapped text).Spent := by
  have last := h.last_of_answer hl (by rw [ha]; rfl)
  refine ⟨?_, unmapped_waiting _ text⟩
  have single : d.mode.isTyping ∨ d.mode.isSelect → d.accept.waiting.length ≤ 1 := by
    intro typed
    have idle : d.waiting = [] := by
      by_contra waits
      obtain ⟨typing, select⟩ := h.commands (Or.inl waits)
      simp [typing, select] at typed
    unfold accept
    split <;> simp [idle]
  have mode : d.accept.mode = d.mode := by rw [Control.mode, accept_toTurn]; rfl
  unfold Dispatch.unmapped
  split
  · exact last
  · next first rest hw =>
    rw [mode]
    rw [hw, List.length_cons] at single
    split
    · next typing =>
      have := single (Or.inl typing)
      simp [last, List.length_eq_zero_iff.1 (show rest.length = 0 by omega)]
    · split
      · next select =>
        have := single (Or.inr select)
        simp [last, List.length_eq_zero_iff.1 (show rest.length = 0 by omega)]
      · exact last

theorem undecided_step (h : d.Undecided) (hs : Step Keymap.standard text flush d d') :
    d'.Spent ∨ d'.Undecided ∧ d'.toTurn = d.toTurn := by
  cases hs with
  | caught hq hc =>
    rename_i s queue
    by_cases last : queue = []
    · exact Or.inl ⟨(intercept?_eq hc).2.1.trans last, intercept?_waiting hc⟩
    · rw [h.uncaught hq last] at hc
      contradiction
  | waits hl ha => exact Or.inr ⟨h.waits hl ha, accept_toTurn d⟩
  | mapped hl ha => exact h.mapped hl ha
  | unmapped hl ha => exact Or.inl (h.unmapped hl ha)

theorem Spent.no_step {km : Keymap} (h : d.Spent) : ¬ Step km text flush d d' := by
  have idle : d.looksUp flush = false := by simp [looksUp, h.queue, h.waiting]
  intro hs
  cases hs with
  | caught hq hc =>
    rw [h.queue] at hq
    contradiction
  | waits hl ha => exact absurd hl (Bool.eq_false_iff.1 idle)
  | mapped hl ha => exact absurd hl (Bool.eq_false_iff.1 idle)
  | unmapped hl ha => exact absurd hl (Bool.eq_false_iff.1 idle)

/-- A turn comes to one effect, after which no key is left, or to nothing. -/
theorem Undecided.run_effect (h : d.Undecided) (text : Text) (flush : Bool) :
    let d' := d.run Keymap.standard text flush
    d'.Spent ∧ d.toTurn.Effect text d'.toTurn ∨ d'.Undecided ∧ d'.toTurn = d.toTurn := by
  refine run_invariant Keymap.standard text flush
    (P := fun d' =>
      d'.Spent ∧ d.toTurn.Effect text d'.toTurn ∨ d'.Undecided ∧ d'.toTurn = d.toTurn)
    ?_ (Or.inr ⟨h, rfl⟩)
  rintro d₁ d₂ (⟨spent, _⟩ | ⟨undecided, same⟩) hs
  · exact absurd hs spent.no_step
  · have effect := step_effect Keymap.standard_fits hs
    rw [same] at effect
    rcases undecided_step undecided hs with spent | ⟨still, turn⟩
    · exact Or.inl ⟨spent, effect⟩
    · exact Or.inr ⟨still, turn.trans same⟩

theorem undecided_of_idle (hw : d.waiting = []) (hq : d.queue = []) : d.Undecided where
  remap := by simp [hw, hq]
  goesOn := fun waits => absurd hw waits
  spelled := Or.inl (by simp [hq])
  named := by simp [hw, hq]

theorem Undecided.next_turn (h : d.Undecided) (hq : d.queue = [])
    (control : d'.toControl = d.toControl) (waiting : d'.waiting = d.waiting)
    (one : d'.queue.length ≤ 1) (remap : ∀ x ∈ d'.queue, x.remap = true) : d'.Undecided where
  remap := by
    have old := h.remap
    rw [hq, List.append_nil] at old
    intro x hx
    rw [waiting, List.mem_append] at hx
    exact hx.elim (old x) (remap x)
  goesOn := by
    rw [waiting, Control.mode, control]
    exact h.goesOn
  spelled := Or.inl one
  named := by
    rw [waiting, control]
    rintro (waits | long)
    · exact h.named (Or.inl waits)
    · exact absurd long (Nat.not_lt.2 one)

/-- Between calls no more is settled than at the end of the turn before. -/
theorem undecided_of_ended (h : d.Spent ∨ d.Undecided) (hq : d.queue = []) (text : Text)
    (cursor : Nat) : (d.response.editor.begin text cursor []).Undecided := by
  rcases h with spent | undecided
  · exact undecided_of_idle spent.waiting rfl
  · exact undecided.next_turn hq rfl rfl (Nat.zero_le 1) (by simp [Editor.begin])

end Dispatch

end ModalEditing
