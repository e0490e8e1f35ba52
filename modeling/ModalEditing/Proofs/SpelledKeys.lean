import ModalEditing.Proofs.RegisteredLookup
import ModalEditing.Proofs.SessionBounds
import ModalEditing.Proofs.TurnFrame

/-! Keys that spell a handler. Where no mapping goes on from another one, the keys of a mapping
wait until the last of them comes and then run its handler, so pressing them one after another
comes to the turn of the handler alone. -/

namespace ModalEditing

namespace Registry

variable {modes : ModeSet} {ks : List Key} {target : Target} {remap : Bool}

theorem keymap_mappings (r : Registry) : r.keymap.mappings = r.mappings := rfl

theorem mem_add (r : Registry) (modes : ModeSet) (target : Target) (remap : Bool) (hk : ks ≠ []) :
    ∃ m ∈ (r.add modes ks target remap).mappings,
      m.modes = modes ∧ m.keys = ks.map Key.normalize ∧ m.target = target ∧ m.remap = remap := by
  have some_key : ks.map Key.normalize ≠ [] := by simpa using hk
  unfold add
  rw [dif_pos some_key]
  exact ⟨_, List.mem_append_right _ (List.mem_singleton_self _), rfl, rfl, rfl, rfl⟩

theorem mem_registerEach {e : Registration} {es : List Registration} (he : e ∈ es)
    (adds : ∀ r : Registry, r.register e = .ok (r.add modes ks target remap)) (hk : ks ≠ [])
    (r : Registry) :
    ∃ m ∈ (r.registerEach es).mappings,
      m.modes = modes ∧ m.keys = ks.map Key.normalize ∧ m.target = target ∧ m.remap = remap := by
  induction es generalizing r with
  | nil => contradiction
  | cons e' es ih =>
    rw [registerEach]
    rcases List.mem_cons.1 he with rfl | later
    · obtain ⟨m, hm, made⟩ := r.mem_add modes target remap hk
      rw [adds r]
      exact ⟨m, (registerEach_extends _ es).subset hm, made⟩
    · split
      · exact ih later _
      · exact ih later r

end Registry

/-- Of two mappings that share a mode, none starts with the keys of the other. -/
def Keymap.PrefixFree (km : Keymap) : Prop :=
  km.mappings.Pairwise fun m m' =>
    m.modes.meets m'.modes → ¬ m.keys <+: m'.keys ∧ ¬ m'.keys <+: m.keys

instance (km : Keymap) : Decidable km.PrefixFree :=
  inferInstanceAs (Decidable (List.Pairwise _ _))

theorem Keymap.standard_prefixFree : Keymap.standard.PrefixFree := by
  decide +kernel

theorem Registry.standard_prefixFree : Registry.standard.keymap.PrefixFree :=
  Keymap.standard_prefixFree.sublist (Registry.registerEach_extends _ _).sublist

namespace Keymap

variable {km : Keymap} {mode : Mode} {m m' : Mapping} {strokes : List Stroke} {i j : Nat}

theorem PrefixFree.place_eq (free : km.PrefixFree) (hi : km.mappings[i]? = some m)
    (hj : km.mappings[j]? = some m') (meets : m.modes.meets m'.modes)
    (meets' : m'.modes.meets m.modes) (start : m.keys <+: m'.keys) : i = j := by
  obtain ⟨inside, rfl⟩ := List.getElem?_eq_some_iff.1 hi
  obtain ⟨inside', rfl⟩ := List.getElem?_eq_some_iff.1 hj
  have apart := List.pairwise_iff_getElem.1 free
  rcases Nat.lt_trichotomy i j with lt | eq | gt
  · exact absurd start (apart i j inside inside' lt meets).1
  · exact eq
  · exact absurd start (apart j i inside' inside gt meets').2

theorem find_waits (hm : m ∈ km.mappings) (meets : m.modes.meets mode.toModeSet)
    (remap : ∀ s ∈ strokes, s.remap = true) (some_key : strokes ≠ [])
    (start : strokes.map Stroke.key <+: m.keys) (longer : strokes.length < m.keys.length) :
    (km.find mode strokes false).waits := by
  rw [find, handlersOnly_eq_false remap]
  refine (lookup_waits_iff (by simpa using some_key)).2 ⟨m, hm, ?_, start, ?_⟩
  · rw [Mapping.applies_false]
    exact meets
  · rw [List.length_map]
    exact longer

theorem PrefixFree.find_found (free : km.PrefixFree) (hm : m ∈ km.mappings)
    (meets : m.modes.meets mode.toModeSet) (remap : ∀ s ∈ strokes, s.remap = true)
    (keys : strokes.map Stroke.key = m.keys) :
    ∃ i, km.find mode strokes false = .found m i m.keys.length := by
  obtain ⟨i, hi⟩ := List.mem_iff_getElem?.1 hm
  have same_place {m' : Mapping} {j : Nat} (hj : km.mappings[j]? = some m')
      (applies : m'.applies mode.toModeSet false) :
      m.modes.meets m'.modes ∧ m'.modes.meets m.modes := by
    rw [Mapping.applies_false] at applies
    exact ⟨ModeSet.meets_of_mode meets applies, ModeSet.meets_of_mode applies meets⟩
  have still : ¬ km.GoesOn mode.toModeSet m.keys false := by
    rintro ⟨m', hm', applies, goes, longer⟩
    obtain ⟨j, hj⟩ := List.mem_iff_getElem?.1 hm'
    obtain ⟨shares, shares'⟩ := same_place hj applies
    obtain rfl := free.place_eq hi hj shares shares' goes
    obtain rfl := Option.some.inj (hi.symm.trans hj)
    exact Nat.lt_irrefl _ longer
  refine ⟨i, ?_⟩
  rw [find, handlersOnly_eq_false remap, keys]
  refine (lookup_of_not_goesOn still).trans (longest_eq_found_iff.2 ⟨⟨hi, ?_, List.prefix_rfl, ?_⟩, rfl⟩)
  · rw [Mapping.applies_false]
    exact meets
  · intro j m' hj applies start
    obtain ⟨shares, shares'⟩ := same_place hj applies
    obtain rfl := free.place_eq hj hi shares' shares start
    obtain rfl := Option.some.inj (hi.symm.trans hj)
    exact Or.inr ⟨rfl, Nat.le_refl _⟩

theorem find_missing {s : Stroke}
    (none_begins : ∀ m ∈ km.mappings, m.modes.meets mode.toModeSet → m.firstKey ≠ s.key) :
    km.find mode [s] false = .missing := by
  have other {m : Mapping} {handlersOnly : Bool} (hm : m ∈ km.mappings)
      (applies : m.applies mode.toModeSet handlersOnly) : m.firstKey ≠ s.key := by
    rw [Mapping.applies, Bool.and_eq_true] at applies
    exact none_begins m hm applies.1
  have still (handlersOnly : Bool) : ¬ km.GoesOn mode.toModeSet [s.key] handlersOnly := by
    rintro ⟨m, hm, applies, goes, _⟩
    have first := head?_of_extends (List.cons_ne_nil _ _) goes
    exact other hm applies (Option.some.inj first).symm
  refine (lookup_of_not_goesOn (still _)).trans (longest_eq_missing_iff.2 ?_)
  intro m hm applies start
  have first := head?_of_prefix start
  exact other hm applies (Option.some.inj first).symm

end Keymap

namespace Dispatch

variable {km : Keymap} {text : Text} {d : Dispatch} {m : Mapping}

/-- The keys that wait and those to come start the keys of the mapping, and nothing but
mappings takes them. -/
structure Starts (d : Dispatch) (m : Mapping) : Prop where
  meets : m.modes.meets d.mode.toModeSet
  keys : (d.waiting ++ d.queue).map Stroke.key <+: m.keys
  remap : ∀ s ∈ d.waiting ++ d.queue, s.remap = true
  mappable : ∀ k ∈ m.keys, k.isMappable
  named : d.command.isAwaitingRegister = false

theorem Starts.accept (h : d.Starts m) : d.accept.Starts m := by
  obtain ⟨meets, keys, remap, mappable, named⟩ := h
  refine ⟨?_, ?_, ?_, mappable, ?_⟩
  · rw [Control.mode, accept_toTurn]
    exact meets
  · rw [accept_keys]
    exact keys
  · rw [accept_keys]
    exact remap
  · rw [accept_toTurn]
    exact named

theorem Starts.looksUp (h : d.Starts m) (more : d.queue ≠ []) : d.looksUp false := by
  obtain ⟨s, queue, hq⟩ := List.exists_cons_of_ne_nil more
  have mem : s.key ∈ m.keys := h.keys.subset (by simp [hq])
  have uncaught := intercept?_of_mappable (d := { d with queue }) (h.mappable _ mem) h.named
  simp [Dispatch.looksUp, hq, uncaught]

theorem Starts.next?_waits (h : d.Starts m) (hm : m ∈ km.mappings) (more : d.queue ≠ [])
    (longer : d.accept.waiting.length < m.keys.length) :
    d.next? km text false = some d.accept := by
  have start : d.accept.waiting.map Stroke.key <+: m.keys := by
    refine List.IsPrefix.trans ?_ h.accept.keys
    rw [List.map_append]
    exact List.prefix_append _ _
  have waits : (d.answer km false).waits :=
    Keymap.find_waits hm h.meets (fun s hs => h.accept.remap s (List.mem_append_left _ hs))
      (accept_waiting_ne_nil (h.looksUp more)) start longer
  rw [next?_of_answer (h.looksUp more)]
  cases ha : d.answer km false with
  | found m i n => simp [ha, Lookup.waits] at waits
  | missing => simp [ha, Lookup.waits] at waits
  | pending => rfl
  | ambiguous => rfl

theorem Starts.next?_found (h : d.Starts m) (free : km.PrefixFree) (hm : m ∈ km.mappings)
    (more : d.queue ≠ []) (all : d.accept.waiting.map Stroke.key = m.keys) :
    d.next? km text false = some (d.accept.apply text m m.keys.length) := by
  obtain ⟨i, found⟩ := free.find_found hm h.meets
    (fun s hs => h.accept.remap s (List.mem_append_left _ hs)) all
  have answer : d.answer km false = .found m i m.keys.length := by
    rw [Dispatch.answer, Bool.false_and]
    exact found
  rw [next?_of_answer (h.looksUp more), answer]

def acceptAll (d : Dispatch) : Dispatch := { d with waiting := d.waiting ++ d.queue, queue := [] }

theorem acceptAll_of_nil (hq : d.queue = []) : d.acceptAll = d := by
  rw [acceptAll, hq, List.append_nil, ← hq]

theorem acceptAll_accept (d : Dispatch) : d.accept.acceptAll = d.acceptAll := by
  rw [acceptAll, accept_keys]
  unfold accept
  split <;> rfl

theorem Starts.run_waits (h : d.Starts m) (hm : m ∈ km.mappings) (text : Text)
    (longer : (d.waiting ++ d.queue).length < m.keys.length) :
    d.run km text false = d.acceptAll := by
  induction hq : d.queue generalizing d with
  | nil =>
    rw [acceptAll_of_nil hq]
    exact run_of_empty hq
  | cons s queue ih =>
    have rest : d.accept.queue = queue := by simp [Dispatch.accept, hq]
    rw [← d.accept_keys] at longer
    have first : d.next? km text false = some d.accept := by
      refine h.next?_waits hm (by simp [hq]) ?_
      rw [List.length_append] at longer
      omega
    rw [run_of_some first, ih h.accept longer rest, acceptAll_accept]

theorem Starts.run_found (h : d.Starts m) (free : km.PrefixFree) (hm : m ∈ km.mappings)
    (text : Text) (more : d.queue ≠ []) (all : (d.waiting ++ d.queue).map Stroke.key = m.keys) :
    d.run km text false = (d.acceptAll.apply text m m.keys.length).run km text false := by
  induction hq : d.queue generalizing d with
  | nil => contradiction
  | cons s queue ih =>
    have rest : d.accept.queue = queue := by simp [Dispatch.accept, hq]
    rw [← d.accept_keys] at all
    by_cases last : queue = []
    · rw [rest, last, List.append_nil] at all
      rw [run_of_some (h.next?_found free hm more all), ← acceptAll_accept,
        acceptAll_of_nil (rest.trans last)]
    · have first : d.next? km text false = some d.accept := by
        refine h.next?_waits hm more ?_
        have some_left := List.length_pos_iff.2 last
        rw [← all, List.length_map, List.length_append, rest]
        omega
      rw [run_of_some first, ih h.accept (rest ▸ last) all rest, acceptAll_accept]

end Dispatch

/-- In the mode the keys run the handler, with so many key-to-key mappings on the way. -/
inductive Keymap.Spells (km : Keymap) (mode : Mode) (f : Handler) : Nat → List Key → Prop where
  | handler {m : Mapping} (hm : m ∈ km.mappings) (meets : m.modes.meets mode.toModeSet)
      (mappable : ∀ k ∈ m.keys, k.isMappable) (target : m.target = .handler f) :
      km.Spells mode f 0 m.keys
  | produced {m : Mapping} {n : Nat} {ks : List Key} (hm : m ∈ km.mappings)
      (meets : m.modes.meets mode.toModeSet) (mappable : ∀ k ∈ m.keys, k.isMappable)
      (target : m.target = .keys ks) (remap : m.remap = true) (h : km.Spells mode f n ks) :
      km.Spells mode f (n + 1) m.keys

theorem Keymap.Spells.exists_mapping {km : Keymap} {mode : Mode} {f : Handler} {n : Nat}
    {ks : List Key} (h : km.Spells mode f n ks) :
    ∃ m ∈ km.mappings, m.modes.meets mode.toModeSet ∧ m.keys = ks ∧ ∀ k ∈ ks, k.isMappable := by
  cases h with
  | handler hm meets mappable target => exact ⟨_, hm, meets, rfl, mappable⟩
  | produced hm meets mappable target remap h => exact ⟨_, hm, meets, rfl, mappable⟩

namespace Dispatch

variable {km : Keymap} {f : Handler} {n : Nat} {ks : List Key}

/-- Keys that spell a handler run it, and nothing else. -/
theorem run_spells (free : km.PrefixFree) {mode : Mode} (h : km.Spells mode f n ks) (text : Text)
    {d : Dispatch} (hmode : d.mode = mode) (budget : n ≤ d.budget)
    (keys : (d.waiting ++ d.queue).map Stroke.key = ks)
    (remap : ∀ s ∈ d.waiting ++ d.queue, s.remap = true) (more : d.queue ≠ [])
    (named : d.command.isAwaitingRegister = false) :
    d.run km text false =
      { d with
        toTurn := d.toTurn.run text f, waiting := [], queue := [], budget := d.budget - n } := by
  induction h generalizing d with
  | @handler m hm meets mappable target =>
    have start : d.Starts m := ⟨hmode ▸ meets, keys ▸ List.prefix_rfl, remap, mappable, named⟩
    have ran : d.acceptAll.apply text m m.keys.length =
        { d with toTurn := d.toTurn.run text f, waiting := [], queue := [] } := by
      simp [apply, acceptAll, target, ← keys]
    rw [start.run_found free hm text more keys, ran]
    exact run_of_empty rfl
  | @produced m n ks hm meets mappable target remap' h ih =>
    -- the produced keys spell the handler in turn, with one mapping less left
    have start : d.Starts m := ⟨hmode ▸ meets, keys ▸ List.prefix_rfl, remap, mappable, named⟩
    obtain ⟨b, hb⟩ : ∃ b, d.budget = b + 1 := ⟨d.budget - 1, by omega⟩
    let d' : Dispatch := { d with waiting := [], queue := ks.map fun key => { key }, budget := b }
    have spelled : d.acceptAll.apply text m m.keys.length = d' := by
      simp [d', apply, acceptAll, target, ← keys, hb, remap']
    obtain ⟨m', _, _, keys', _⟩ := h.exists_mapping
    have some_key : d'.queue ≠ [] := by
      simp only [d', ne_eq, List.map_eq_nil_iff, ← keys']
      exact m'.keys_ne_nil
    have ran := ih (d := d') hmode (show n ≤ b by omega) (by simp [d', Function.comp_def])
      (by simp [d']) some_key named
    rw [start.run_found free hm text more keys, spelled, ran, hb, Nat.add_sub_add_right]

end Dispatch

def Turn.response (t : Turn) : Response where
  editor := { toControl := t.toControl }
  cursor := t.cursor
  actions := t.actions

namespace Session

variable {s : Session} {f : Handler} {n : Nat}

def opening (s : Session) : Turn := { toControl := s.editor.toControl, cursor := s.cursor }

def handled (s : Session) (f : Handler) : Turn := s.opening.run s.text f

theorem begin_toTurn (cursor : s.cursor ≤ s.text.size) (queue : List Stroke) :
    (s.editor.begin s.text s.cursor queue).toTurn = s.opening := by
  have place : min s.cursor s.text.size = s.cursor := Nat.min_eq_left cursor
  show ({ toControl := s.editor.toControl, cursor := min s.cursor s.text.size } : Turn) = _
  rw [place]
  rfl

theorem accept_response (s : Session) (t : Turn) :
    s.accept t.response =
      { s with editor := { toControl := t.toControl }, text := t.now s.text, cursor := t.cursor } :=
  rfl

def emitted (reports : List Report) : List Action := reports.flatMap fun r => r.actions.toList

def holding (s : Session) (k : Key) : Session :=
  { s with editor := { s.editor with waiting := s.editor.waiting ++ [{ key := k }] } }

theorem remap_snoc {strokes : List Stroke} (h : ∀ x ∈ strokes, x.remap = true) (k : Key) :
    ∀ x ∈ strokes ++ [({ key := k } : Stroke)], x.remap = true := by
  intro x hx
  rcases List.mem_append.1 hx with old | new
  · exact h x old
  · rw [List.mem_singleton.1 new]

theorem press_waits {m : Mapping} {i : Input} (hm : m ∈ s.keymap.mappings)
    (meets : m.modes.meets s.editor.mode.toModeSet) (mappable : ∀ k ∈ m.keys, k.isMappable)
    (start : s.editor.waitingKeys ++ [i.toKey] <+: m.keys)
    (longer : (s.editor.waitingKeys ++ [i.toKey]).length < m.keys.length)
    (remap : ∀ x ∈ s.editor.waiting, x.remap = true)
    (named : s.editor.command.isAwaitingRegister = false) (cursor : s.cursor ≤ s.text.size) :
    s.press i = (s.holding i.toKey, #[]) := by
  let d := s.editor.begin s.text s.cursor [{ key := i.toKey }]
  have keys : (d.waiting ++ d.queue).map Stroke.key = s.editor.waitingKeys ++ [i.toKey] :=
    List.map_append
  have starts : d.Starts m := by
    exact ⟨meets, keys ▸ start, remap_snoc remap i.toKey, mappable, named⟩
  rw [← keys, List.length_map] at longer
  have ran : d.run s.keymap s.text false = d.acceptAll := starts.run_waits hm s.text longer
  have place : min s.cursor s.text.size = s.cursor := Nat.min_eq_left cursor
  show (s.accept (d.run s.keymap s.text false).response, (d.run s.keymap s.text false).actions) = _
  rw [ran]
  show (({ s.holding i.toKey with cursor := min s.cursor s.text.size } : Session), #[]) = _
  rw [place]
  rfl

theorem press_spells (free : s.keymap.PrefixFree) {i : Input}
    (h : s.keymap.Spells s.editor.mode f n (s.editor.waitingKeys ++ [i.toKey]))
    (budget : n ≤ expansionLimit) (remap : ∀ x ∈ s.editor.waiting, x.remap = true)
    (named : s.editor.command.isAwaitingRegister = false) (cursor : s.cursor ≤ s.text.size) :
    s.press i = (s.accept (s.handled f).response, (s.handled f).actions) := by
  let d := s.editor.begin s.text s.cursor [{ key := i.toKey }]
  have keys : (d.waiting ++ d.queue).map Stroke.key = s.editor.waitingKeys ++ [i.toKey] :=
    List.map_append
  have marked : ∀ x ∈ d.waiting ++ d.queue, x.remap = true := remap_snoc remap i.toKey
  have turn : d.toTurn = s.opening := begin_toTurn cursor _
  have ran := Dispatch.run_spells free h s.text rfl budget keys marked (List.cons_ne_nil _ _) named
  show (s.accept (d.run s.keymap s.text false).response, (d.run s.keymap s.text false).actions) = _
  rw [ran, turn]
  rfl

/-- Keys that spell a handler come to its turn, and until the last of them nothing is asked of
the host. Some of them may have been waiting. -/
theorem pressAll_spells (free : s.keymap.PrefixFree) {is : List Input}
    (h : s.keymap.Spells s.editor.mode f n (s.editor.waitingKeys ++ is.map Input.toKey))
    (budget : n ≤ expansionLimit) (remap : ∀ x ∈ s.editor.waiting, x.remap = true)
    (named : s.editor.command.isAwaitingRegister = false) (cursor : s.cursor ≤ s.text.size)
    (more : is ≠ []) :
    (s.pressAll is).1 = s.accept (s.handled f).response ∧
      emitted (s.pressAll is).2 = (s.handled f).actions.toList := by
  induction is generalizing s with
  | nil => contradiction
  | cons i is ih =>
    by_cases last : is = []
    · subst last
      have pressed := press_spells free h budget remap named cursor
      simp [pressAll, pressed, emitted]
    · have keys : s.editor.waitingKeys ++ (i :: is).map Input.toKey =
          (s.holding i.toKey).editor.waitingKeys ++ is.map Input.toKey := by
        simp [holding, Editor.waitingKeys]
      obtain ⟨m, hm, meets, spelled, mappable⟩ := h.exists_mapping
      have pressed : s.press i = (s.holding i.toKey, #[]) := by
        have some_left := List.length_pos_iff.2 last
        refine press_waits hm meets (spelled ▸ mappable) ?_ ?_ remap named cursor
        · exact ⟨is.map Input.toKey, by simp [spelled]⟩
        · simp [spelled]
          omega
      rw [keys] at h
      have rest :=
        ih (s := s.holding i.toKey) free h (remap_snoc remap i.toKey) named cursor last
      rw [pressAll, pressed]
      exact rest

def typed (s : Session) (k : Key) : Turn :=
  if s.editor.mode.isSelect then s.opening.selectKey s.text k else s.opening.insertKey k

theorem press_unmapped {i : Input} (idle : s.editor.waiting = []) (cursor : s.cursor ≤ s.text.size)
    (none_begins : ∀ m ∈ s.keymap.mappings, m.modes.meets s.editor.mode.toModeSet →
      m.firstKey ≠ i.toKey)
    (taken : s.editor.mode.isTyping ∨ s.editor.mode.isSelect ∧ i.toKey.code ≠ .esc) :
    s.press i = (s.accept (s.typed i.toKey).response, (s.typed i.toKey).actions) := by
  let x : Stroke := { key := i.toKey }
  let d := s.editor.begin s.text s.cursor [x]
  have accepted : d.accept = { d with queue := [], waiting := [x] } := by
    simp [Dispatch.accept, d, Editor.begin, idle]
  have looks : d.looksUp false := by
    have uncaught : { d with queue := [] }.intercept? i.toKey = none := by
      rcases taken with typing | ⟨select, code⟩
      · exact if_pos typing
      · have commands : s.editor.mode.isTyping = false := Mode.not_typing_of_select select
        exact (if_neg (Bool.eq_false_iff.1 commands)).trans
          ((if_neg code).trans (if_pos (Or.inr select)))
    exact congrArg Option.isNone uncaught
  have answer : d.answer s.keymap false = .missing := by
    rw [Dispatch.answer, accepted]
    exact Keymap.find_missing none_begins
  have refused : d.accept.unmapped s.text =
      { d with toTurn := s.typed i.toKey, waiting := [], queue := [] } := by
    have start : d.toTurn = s.opening := begin_toTurn cursor _
    rw [accepted, Dispatch.unmapped]
    have mode : s.opening.mode = s.editor.mode := rfl
    simp only [start, mode, typed]
    rcases taken with typing | ⟨select, _⟩
    · have other : s.editor.mode.isSelect = false := by
        rw [Bool.eq_false_iff]
        exact fun select => Bool.eq_false_iff.1 (Mode.not_typing_of_select select) typing
      rw [if_pos typing, other]
      rfl
    · rw [Mode.not_typing_of_select select, if_pos select, if_pos select]
      rfl
  have ran : d.run s.keymap s.text false =
      { d with toTurn := s.typed i.toKey, waiting := [], queue := [] } := by
    rw [Dispatch.run_of_some (Dispatch.next?_of_answer looks), answer, refused]
    exact Dispatch.run_of_empty rfl
  show (s.accept (d.run s.keymap s.text false).response, (d.run s.keymap s.text false).actions) = _
  rw [ran]
  rfl

/-- No key waits, nothing of a command is typed, and the cursor lies within the text. -/
structure Idle (s : Session) : Prop where
  waiting : s.editor.waiting = []
  command : s.editor.command = {}
  cursor : s.cursor ≤ s.text.size

theorem Idle.press_spells {f : Handler} {i : Input} (h : s.Idle) (free : s.keymap.PrefixFree)
    (spelled : s.keymap.Spells s.editor.mode f 0 [i.toKey]) :
    s.press i = (s.accept (s.handled f).response, (s.handled f).actions) := by
  have none_waits : s.editor.waitingKeys = [] := congrArg (List.map Stroke.key) h.waiting
  refine Session.press_spells (n := 0) free ?_ (Nat.zero_le _) ?_ ?_ h.cursor
  · rw [none_waits]
    exact spelled
  · simp [h.waiting]
  · rw [h.command]
    rfl

end Session

theorem Keymap.Spells.mono {km km' : Keymap} {mode : Mode} {f : Handler} {n : Nat} {ks : List Key}
    (h : km.Spells mode f n ks) (sub : km.mappings ⊆ km'.mappings) : km'.Spells mode f n ks := by
  induction h with
  | handler hm meets mappable target => exact .handler (sub hm) meets mappable target
  | produced hm meets mappable target remap h ih =>
    exact .produced (sub hm) meets mappable target remap ih

namespace Registry

variable {modes : ModeSet} {mode : Mode} {ks produced : List Key} {f : Handler} {n : Nat}

theorem spells_of_handler {es : List Registration} (he : .handler modes ks f ∈ es)
    (meets : modes.meets mode.toModeSet) (mappable : ∀ k ∈ ks, k.isMappable ∧ k.normalize = k)
    (hk : ks ≠ []) (r : Registry) : (r.registerEach es).keymap.Spells mode f 0 ks := by
  obtain ⟨m, hm, rfl, keys, target, _⟩ := mem_registerEach he (fun r => by rw [register]) hk r
  have same : m.keys = ks := keys.trans
    ((List.map_congr_left fun k hk => (mappable k hk).2).trans (List.map_id ks))
  rw [← same] at mappable ⊢
  exact .handler hm meets (fun k hk => (mappable k hk).1) target

theorem spells_of_keys {es : List Registration} (he : .keys modes ks produced true ∈ es)
    (meets : modes.meets mode.toModeSet) (mappable : ∀ k ∈ ks, k.isMappable ∧ k.normalize = k)
    (hk : ks ≠ []) (r : Registry) (h : (r.registerEach es).keymap.Spells mode f n produced) :
    (r.registerEach es).keymap.Spells mode f (n + 1) ks := by
  obtain ⟨m, hm, rfl, keys, target, remap⟩ := mem_registerEach he (fun r => by rw [register]) hk r
  have same : m.keys = ks := keys.trans
    ((List.map_congr_left fun k hk => (mappable k hk).2).trans (List.map_id ks))
  rw [← same] at mappable ⊢
  exact .produced hm meets (fun k hk => (mappable k hk).1) target remap h

theorem standard_spells_operator (o : Operator) (meets : ModeSet.commands.meets mode.toModeSet) :
    standard.keymap.Spells mode (.operator o) 0 [Key.plain o.key] := by
  have listed : o ∈ operators := by cases o <;> decide
  have entry :
      Registration.handler .commands [Key.plain o.key] (.operator o) ∈ standardEntries := by
    unfold standardEntries
    simp only [List.mem_append, List.mem_map]
    exact Or.inl (Or.inl (Or.inr ⟨o, listed, rfl⟩))
  exact spells_of_handler entry meets (by cases o <;> decide) (List.cons_ne_nil _ _) {}

theorem standard_spells_motion {x : String} {m : Motion} (hx : (x, m) ∈ motionKeys)
    (other : x ≠ "0") (meets : ModeSet.commands.meets mode.toModeSet) :
    standard.keymap.Spells mode (.motion m) 0 (Key.typing x) := by
  have entry : Registration.handler .commands (Key.typing x) (.motion m) ∈ standardEntries := by
    unfold standardEntries
    simp only [List.mem_append, List.mem_map]
    exact Or.inl (Or.inl (Or.inl ⟨(x, m), hx, rfl⟩))
  have mappable : ∀ e ∈ motionKeys, e.1 ≠ "0" →
      (∀ k ∈ Key.typing e.1, k.isMappable ∧ k.normalize = k) ∧ Key.typing e.1 ≠ [] := by decide
  obtain ⟨each, some_key⟩ := mappable (x, m) hx other
  exact spells_of_handler entry meets each some_key {}

theorem standard_spells_selection {k : Key} {c : EditCommand} (he : (modes, k, c) ∈ selectionKeys)
    (meets : modes.meets mode.toModeSet) : standard.keymap.Spells mode (.command c) 0 [k] := by
  have entry : Registration.handler modes [k] (.command c) ∈ standardEntries :=
    List.mem_append_right _ (List.mem_map.2 ⟨_, he, rfl⟩)
  have mappable : ∀ e ∈ selectionKeys, ∀ k ∈ [e.2.1], k.isMappable ∧ k.normalize = k := by decide
  exact spells_of_handler entry meets (mappable _ he) (List.cons_ne_nil _ _) {}

end Registry

namespace Keymap

theorem standard_extends : Registry.standard.keymap.mappings ⊆ standard.mappings := by
  rw [standard, Registry.keymap_mappings, Registry.keymap_mappings]
  exact (Registry.registerEach_extends Registry.standard [indentObjects]).subset

def indentEntries : List Registration :=
  indentHandlers.map (fun (name, b) =>
      .handler .objects (Key.plugged name) (.textObject b.toTextObject)) ++
    indentKeys.map (fun (ks, name) => .keys .objects (Key.typing ks) (Key.plugged name) true)

theorem exists_standard_eq : ∃ r : Registry, standard = (r.registerEach indentEntries).keymap := by
  let opened : Registry :=
    { Registry.standard with extensions := ["textobj-indent"], owner := some "textobj-indent" }
  have table : Registry.standard.registerEach [indentObjects] =
      { opened.registerEach indentEntries with owner := none } :=
    Registry.registerEach_of_new List.not_mem_nil
  refine ⟨opened, ?_⟩
  rw [standard, table, Registry.keymap, Registry.keymap]

theorem plugged_mappable :
    ∀ e ∈ indentHandlers, ∀ k ∈ Key.plugged e.1, k.isMappable ∧ k.normalize = k := by
  decide

theorem indentKeys_mappable :
    ∀ e ∈ indentKeys, ∀ k ∈ Key.typing e.1, k.isMappable ∧ k.normalize = k := by
  decide

theorem standard_spells_object {mode : Mode} {x name : String} {b : IndentBlock}
    (hx : (x, name) ∈ indentKeys) (hb : (name, b) ∈ indentHandlers)
    (meets : ModeSet.objects.meets mode.toModeSet) :
    standard.Spells mode (.textObject b.toTextObject) 1 (Key.typing x) := by
  obtain ⟨r, table⟩ := exists_standard_eq
  have handler :
      .handler .objects (Key.plugged name) (.textObject b.toTextObject) ∈ indentEntries :=
    List.mem_append_left _ (List.mem_map.2 ⟨(name, b), hb, rfl⟩)
  have keys : .keys .objects (Key.typing x) (Key.plugged name) true ∈ indentEntries :=
    List.mem_append_right _ (List.mem_map.2 ⟨(x, name), hx, rfl⟩)
  have some_key : ∀ e ∈ indentKeys, Key.typing e.1 ≠ [] := by decide
  have spelled := Registry.spells_of_handler handler meets (plugged_mappable _ hb)
    (List.cons_ne_nil _ _) r
  rw [table]
  exact Registry.spells_of_keys keys meets (indentKeys_mappable _ hx) (some_key _ hx) r spelled

def BuiltIn (km : Keymap) : Prop := km = Registry.standard.keymap ∨ km = .standard

theorem BuiltIn.prefixFree {km : Keymap} (h : km.BuiltIn) : km.PrefixFree := by
  rcases h with rfl | rfl
  · exact Registry.standard_prefixFree
  · exact standard_prefixFree

theorem BuiltIn.spells {km : Keymap} {mode : Mode} {f : Handler} {n : Nat} {ks : List Key}
    (h : km.BuiltIn) (spelled : Registry.standard.keymap.Spells mode f n ks) :
    km.Spells mode f n ks := by
  rcases h with rfl | rfl
  · exact spelled
  · exact spelled.mono standard_extends

theorem BuiltIn.mem_standard {km : Keymap} (h : km.BuiltIn) {m : Mapping} (hm : m ∈ km.mappings) :
    m ∈ standard.mappings := by
  rcases h with rfl | rfl
  · exact standard_extends hm
  · exact hm

end Keymap

end ModalEditing
