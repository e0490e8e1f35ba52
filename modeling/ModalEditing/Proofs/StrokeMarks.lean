import ModalEditing.Proofs.ControlState
import ModalEditing.Proofs.TurnEnd

/-! Strokes that are not subject to mapping. Among the waiting keys and the keys to come they
stand before all others, so that a mapping which may take the first of the waiting keys may
take them all, though a look-up asks the first one only. -/

namespace ModalEditing

def FixedFirst (ss : List Stroke) : Prop := ss.Pairwise fun a b => a.remap → b.remap

/-- The stroke is one of the keys typed, which are subject to mapping, or a mapping of the table
produces it and says whether it is. -/
def Stroke.ComesFrom (km : Keymap) (typed : List Key) (s : Stroke) : Prop :=
  s.remap = true ∧ s.key ∈ typed ∨
    ∃ m ∈ km.mappings, ∃ ks, m.target = .keys ks ∧ s.key ∈ ks ∧ s.remap = m.remap

structure Marked (km : Keymap) (typed : List Key) (ss : List Stroke) : Prop where
  order : FixedFirst ss
  origin : ∀ s ∈ ss, s.ComesFrom km typed

section

variable {km : Keymap} {typed : List Key} {ss ss' : List Stroke}

theorem FixedFirst.all_remap {s : Stroke} (h : FixedFirst ss) (hs : ss.head? = some s)
    (remap : s.remap = true) : ∀ s ∈ ss, s.remap = true := by
  obtain ⟨rest, rfl⟩ := List.head?_eq_some_iff.1 hs
  intro x hx
  rcases List.mem_cons.1 hx with rfl | later
  · exact remap
  · exact (List.pairwise_cons.1 h).1 x later remap

theorem Marked.nil (km : Keymap) (typed : List Key) : Marked km typed [] where
  order := List.Pairwise.nil
  origin := fun _ hs => absurd hs List.not_mem_nil

theorem Marked.sublist (h : Marked km typed ss) (hs : ss'.Sublist ss) : Marked km typed ss' where
  order := List.Pairwise.sublist hs h.order
  origin := fun s mem => h.origin s (hs.subset mem)

theorem Marked.mono {more : List Key} (h : Marked km typed ss) (sub : typed ⊆ more) :
    Marked km more ss where
  order := h.order
  origin := fun s mem => (h.origin s mem).imp_left fun ⟨remap, key⟩ => ⟨remap, sub key⟩

theorem Marked.concat {k : Key} (h : Marked km typed ss) (hk : k ∈ typed) :
    Marked km typed (ss ++ [{ key := k }]) where
  order := by
    refine List.pairwise_append.2 ⟨h.order, List.pairwise_singleton _ _, ?_⟩
    intro a _ b hb _
    rw [List.mem_singleton.1 hb]
  origin := by
    intro s hs
    rcases List.mem_append.1 hs with old | new
    · exact h.origin s old
    · obtain rfl := List.mem_singleton.1 new
      exact Or.inl ⟨rfl, hk⟩

theorem Marked.produce {m : Mapping} {ks : List Key} (h : Marked km typed ss)
    (all : ∀ s ∈ ss, s.remap = true) (hm : m ∈ km.mappings) (target : m.target = .keys ks) :
    Marked km typed (ks.map (fun key => ⟨key, m.remap⟩) ++ ss) where
  order := by
    refine List.pairwise_append.2 ⟨?_, h.order, fun _ _ b hb _ => all b hb⟩
    exact List.pairwise_map.2 (List.pairwise_of_forall fun _ _ => id)
  origin := by
    intro s hs
    rcases List.mem_append.1 hs with new | old
    · obtain ⟨k, hk, rfl⟩ := List.mem_map.1 new
      exact Or.inr ⟨m, hm, ks, target, hk, rfl⟩
    · exact h.origin s old

end

namespace Dispatch

def strokes (d : Dispatch) : List Stroke := d.waiting ++ d.queue

variable {km : Keymap} {text : Text} {flush : Bool} {d d' : Dispatch} {typed : List Key}

@[simp] theorem accept_strokes (d : Dispatch) : d.accept.strokes = d.strokes := d.accept_keys

theorem unmapped_strokes (d : Dispatch) (text : Text) : (d.unmapped text).strokes.Sublist d.strokes := by
  unfold unmapped
  split
  · exact List.Sublist.refl _
  · next first rest waiting =>
    have others : d.strokes = first :: (rest ++ d.queue) := by simp [strokes, waiting]
    rw [others]
    split
    · exact List.sublist_cons_self first _
    · split
      · exact List.sublist_cons_self first _
      · exact (List.sublist_append_right rest d.queue).cons first

theorem taken_of_answer {m : Mapping} {i n : Nat} (ha : d.answer km flush = .found m i n) :
    (d.accept.waiting.take n).map Stroke.key = m.keys := by
  have start := (longest_of_answer ha).isPrefix
  rw [consumed_of_answer ha, List.map_take]
  exact (List.prefix_iff_eq_take.1 start).symm

theorem consumed_le_of_answer {m : Mapping} {i n : Nat} (ha : d.answer km flush = .found m i n) :
    n ≤ d.accept.waiting.length := by
  have start := (longest_of_answer ha).isPrefix.length_le
  rw [List.length_map] at start
  rwa [consumed_of_answer ha]

theorem strokes_drop {n : Nat} (le : n ≤ d.waiting.length) :
    d.strokes.drop n = d.waiting.drop n ++ d.queue :=
  List.drop_append_of_le_length le

theorem apply_strokes_handler {m : Mapping} {f : Handler} {n : Nat} (text : Text)
    (target : m.target = .handler f) (le : n ≤ d.waiting.length) :
    (d.apply text m n).strokes = d.strokes.drop n := by
  rw [strokes_drop le]
  simp [apply, target, strokes]

/-- A key-to-key mapping puts the keys that it produces in the place of those that it takes,
unless the turn fails. -/
theorem apply_strokes_keys {m : Mapping} {ks : List Key} {n : Nat} (text : Text)
    (target : m.target = .keys ks) (le : n ≤ d.waiting.length) :
    (d.apply text m n).strokes = [] ∨
      (d.apply text m n).strokes = ks.map (fun key => ⟨key, m.remap⟩) ++ d.strokes.drop n := by
  rw [strokes_drop le]
  cases hb : d.budget with
  | zero => exact Or.inl (by simp [strokes, apply, target, hb, fail])
  | succ b => exact Or.inr (by simp [strokes, apply, target, hb])

theorem all_remap_of_answer {m : Mapping} {i n : Nat} {ks : List Key} (h : FixedFirst d.strokes)
    (ha : d.answer km flush = .found m i n) (target : m.target = .keys ks) :
    ∀ s ∈ d.strokes, s.remap = true := by
  have found := longest_of_answer ha
  have le := consumed_le_of_answer ha
  have some_key : 0 < n := by
    rw [consumed_of_answer ha]
    exact List.length_pos_iff.2 m.keys_ne_nil
  obtain ⟨first, rest, waiting⟩ := List.exists_cons_of_length_pos (Nat.lt_of_lt_of_le some_key le)
  -- with a first stroke that forbids mapping, only handlers would apply
  have remap : first.remap = true := by
    have applies := found.applies
    simp only [Mapping.applies, Mapping.isHandler, target, waiting, Bool.and_eq_true] at applies
    simpa using applies.2
  rw [← accept_strokes] at h ⊢
  exact h.all_remap (by rw [strokes, waiting]; rfl) remap

theorem step_marked (h : Marked km typed d.strokes) (hs : Step km text flush d d') :
    Marked km typed d'.strokes := by
  cases hs with
  | caught hq hc =>
    rename_i s queue
    have waiting := intercept?_waiting hc
    have queued := (intercept?_eq hc).2.1
    refine h.sublist ?_
    rw [strokes, strokes, waiting, queued, hq, List.nil_append]
    exact (List.sublist_cons_self s queue).trans (List.sublist_append_right _ _)
  | waits hl ha =>
    rw [accept_strokes]
    exact h
  | mapped hl ha =>
    -- the strokes taken come first, so what is left keeps its order
    rename_i m i n
    have mem := (mapping_of_answer ha).1
    have le := consumed_le_of_answer ha
    have rest := h.sublist (List.drop_sublist n d.strokes)
    cases target : m.target with
    | handler f =>
      rw [apply_strokes_handler text target le, accept_strokes]
      exact rest
    | keys ks =>
      rcases apply_strokes_keys text target le with none_left | produced
      · rw [none_left]
        exact Marked.nil km typed
      · rw [produced, accept_strokes]
        refine rest.produce ?_ mem target
        intro s hs
        exact all_remap_of_answer h.order ha target s (List.mem_of_mem_drop hs)
  | unmapped hl ha =>
    have shorter := unmapped_strokes d.accept text
    rw [accept_strokes] at shorter
    exact h.sublist shorter

end Dispatch

def Call.isFlush : Call → Bool
  | flush => true
  | input _ | abort => false

namespace Editor

def moments (e : Editor) (km : Keymap) (text : Text) (cursor : Nat) : Call → List Dispatch
  | .input i => (e.begin text cursor [{ key := i.toKey }]).trace km text false
  | .flush => (e.begin text cursor []).trace km text true
  | .abort => []

variable {e : Editor} {km : Keymap} {typed : List Key}

theorem begin_strokes (e : Editor) (text : Text) (cursor : Nat) (queue : List Stroke) :
    (e.begin text cursor queue).strokes = e.waiting ++ queue := rfl

theorem moments_marked (h : Marked km typed e.waiting) (text : Text) (cursor : Nat) (c : Call) :
    ∀ d ∈ e.moments km text cursor c, Marked km (typed ++ c.key?.toList) d.strokes := by
  cases c with
  | input i =>
    refine Dispatch.trace_invariant km text false (fun _ _ kept step => Dispatch.step_marked kept step) ?_
    have more : Marked km (typed ++ [i.toKey]) e.waiting := h.mono (List.subset_append_left _ _)
    rw [begin_strokes]
    exact more.concat (by simp)
  | flush =>
    refine Dispatch.trace_invariant km text true (fun _ _ kept step => Dispatch.step_marked kept step) ?_
    rw [begin_strokes, List.append_nil]
    exact h.mono (List.subset_append_left _ _)
  | abort =>
    intro d hd
    exact absurd hd List.not_mem_nil

theorem respond_waiting (e : Editor) (km : Keymap) (text : Text) (cursor : Nat) (c : Call) :
    (e.respond km text cursor c).editor.waiting = [] ∨
      ∃ d ∈ e.moments km text cursor c, (e.respond km text cursor c).editor.waiting = d.waiting := by
  cases c with
  | input i => exact Or.inr ⟨_, Dispatch.run_mem_trace km text false _, rfl⟩
  | flush => exact Or.inr ⟨_, Dispatch.run_mem_trace km text true _, rfl⟩
  | abort => exact Or.inl rfl

theorem respond_marked (h : Marked km typed e.waiting) (text : Text) (cursor : Nat) (c : Call) :
    Marked km (typed ++ c.key?.toList) (e.respond km text cursor c).editor.waiting := by
  rcases e.respond_waiting km text cursor c with empty | ⟨d, hd, waiting⟩
  · rw [empty]
    exact Marked.nil km _
  · rw [waiting]
    exact (moments_marked h text cursor c d hd).sublist (List.sublist_append_left _ _)

def typedKeys (calls : List (Text × Nat × Call)) : List Key := calls.filterMap fun c => c.2.2.key?

theorem replay_marked (h : Marked km typed e.waiting) (calls : List (Text × Nat × Call)) :
    Marked km (typed ++ typedKeys calls) (e.replay km calls).waiting := by
  induction calls generalizing e typed with
  | nil =>
    rw [typedKeys, List.filterMap_nil, List.append_nil]
    exact h
  | cons call calls ih =>
    have rest := ih (respond_marked h call.1 call.2.1 call.2.2)
    have keys : typedKeys (call :: calls) = call.2.2.key?.toList ++ typedKeys calls := by
      rw [typedKeys, List.filterMap_cons]
      cases call.2.2.key? <;> rfl
    rw [keys, ← List.append_assoc]
    exact rest

/-- Whatever an editor is called for, at each moment the keys that must not be mapped come first
among the waiting keys and the keys to come. So a key-to-key mapping takes only typed keys and
keys that come from mappings which allow it. -/
theorem fixed_strokes_first (c : Control) (km : Keymap) (calls : List (Text × Nat × Call))
    (text : Text) (cursor : Nat) (call : Call) :
    let e := ({ toControl := c } : Editor).replay km calls
    let typed := typedKeys calls ++ call.key?.toList
    ∀ d ∈ e.moments km text cursor call,
      FixedFirst (d.waiting ++ d.queue) ∧
      (∀ s ∈ d.waiting ++ d.queue, s.ComesFrom km typed) ∧
      d.accept.waiting ++ d.accept.queue = d.waiting ++ d.queue ∧
      ∀ m i consumed ks, d.answer km call.isFlush = .found m i consumed → m.target = .keys ks →
        let taken := d.accept.waiting.take consumed
        taken.map Stroke.key = m.keys ∧ ∀ s ∈ taken, s.remap = true := by
  intro e typed d hd
  have waiting : Marked km ([] ++ typedKeys calls) e.waiting :=
    replay_marked (e := { toControl := c }) (Marked.nil km []) calls
  rw [List.nil_append] at waiting
  have marked : Marked km typed d.strokes := moments_marked waiting text cursor call d hd
  refine ⟨marked.order, marked.origin, d.accept_keys, ?_⟩
  intro m i consumed ks answer target
  refine ⟨Dispatch.taken_of_answer answer, ?_⟩
  intro s hs
  have mem : s ∈ d.accept.strokes := List.mem_append_left _ (List.mem_of_mem_take hs)
  rw [Dispatch.accept_strokes] at mem
  exact Dispatch.all_remap_of_answer marked.order answer target s mem

/-- In Insert mode `a` stands for `bc`, which is not to be mapped, and `x` for `d`; a handler
waits for `cz`. -/
def mixedKeymap : Keymap :=
  (Registry.registerEach {}
    [.keys { insert := true } (Key.typing "a") (Key.typing "bc") false,
      .keys { insert := true } (Key.typing "x") (Key.typing "d") true,
      .handler { insert := true } (Key.typing "cz") (.motion .left)]).keymap

theorem fixed_strokes_first_mixed :
    let c : Control := { modes := { mode := .insert } }
    let fresh : Editor := { toControl := c }
    let a : List (Text × Nat × Call) := [(#[], 0, .input (.key (Key.plain 'a')))]
    let x : Call := .input (.key (Key.plain 'x'))
    (∃ d ∈ (fresh.replay mixedKeymap a).moments mixedKeymap #['b'] 1 x,
      d.waiting ++ d.queue = [⟨Key.plain 'c', false⟩, ⟨Key.plain 'x', true⟩] ∧
      FixedFirst (d.waiting ++ d.queue)) ∧
    ∃ d ∈ fresh.moments mixedKeymap #[] 0 x, ∃ m i consumed ks,
      d.answer mixedKeymap x.isFlush = .found m i consumed ∧ m.target = .keys ks ∧
      d.accept.waiting.take consumed = [⟨Key.plain 'x', true⟩] ∧
      ∀ s ∈ d.accept.waiting.take consumed, s.remap = true := by
  intro c fresh a x
  let e := fresh.replay mixedKeymap a
  constructor
  · let d := e.begin #['b'] 1 [{ key := Key.plain 'x' }]
    have start : d ∈ e.moments mixedKeymap #['b'] 1 x := Dispatch.mem_trace_self _ _ _ d
    have held : e.waiting = [⟨Key.plain 'c', false⟩] := by cbv
    have strokes : d.waiting ++ d.queue = e.waiting ++ [{ key := Key.plain 'x' }] := rfl
    exact ⟨d, start, by rw [strokes, held]; rfl,
      (fixed_strokes_first c mixedKeymap a #['b'] 1 x d start).1⟩
  · let d := fresh.begin #[] 0 [{ key := Key.plain 'x' }]
    have start : d ∈ fresh.moments mixedKeymap #[] 0 x := Dispatch.mem_trace_self _ _ _ d
    have taken := (fixed_strokes_first c mixedKeymap [] #[] 0 x d start).2.2.2
    exact ⟨d, start, _, 1, 1, Key.typing "d", rfl, rfl, rfl, (taken _ 1 1 _ rfl rfl).2⟩

end Editor

end ModalEditing
