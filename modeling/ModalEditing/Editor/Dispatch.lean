import ModalEditing.Editor.Handling
import ModalEditing.Editor.Typing
import ModalEditing.Keymap.Basic

/-! The dispatch of keys. Keys wait until a mapping resolves them: a handler runs, a
key-to-key mapping puts its keys at the front of the queue, and without a mapping the keys
are typed or refused. Only so many key-to-key mappings may apply in one turn; beyond them
the turn fails. `Dispatch.next?` is one step and `Dispatch.run` takes all of them. -/

namespace ModalEditing

/-- Looks strokes up in a mode. Where the first one is not subject to mapping only handlers are
found. With `final` no further keys are waited for. -/
def Keymap.find (km : Keymap) (mode : Mode) (strokes : List Stroke) (final : Bool) : Lookup :=
  let ks := strokes.map Stroke.key
  let handlersOnly := strokes.head?.any fun s => !s.remap
  if final then km.longest mode.toModeSet ks handlersOnly
  else km.lookup mode.toModeSet ks handlersOnly

theorem Keymap.final_of_find_waits (km : Keymap) {mode : Mode} {strokes : List Stroke} {final : Bool}
    (h : (km.find mode strokes final).waits) : final = false := by
  cases final with
  | false => rfl
  | true => simp [Keymap.find] at h

theorem Keymap.consumed_of_find {km : Keymap} {mode : Mode} {strokes : List Stroke} {final : Bool}
    {m : Mapping} {i n : Nat} (h : km.find mode strokes final = .found m i n) :
    n = m.keys.length := by
  unfold find at h
  cases final with
  | true => exact consumed_of_longest h
  | false => exact consumed_of_lookup h

def expansionLimit : Nat := 1000

structure Dispatch extends Turn where
  waiting : List Stroke := []
  /-- Keys to come. -/
  queue : List Stroke := []
  budget : Nat := expansionLimit
deriving DecidableEq, Inhabited

namespace Dispatch

def fail (d : Dispatch) : Dispatch := { d with toTurn := d.toTurn.fail, waiting := [] }

/-- Escape drops what is partial, if anything is, and else leaves the selection. -/
def escape (d : Dispatch) : Dispatch :=
  if d.waiting ≠ [] ∨ ¬ d.command.isEmpty ∨ d.mode.isOperatorPending then
    { d with toControl := d.toControl.dropCommand, waiting := [] }
  else if d.mode.hasSelection then
    { d with toTurn := (d.toTurn.transition .exit).emit (.setSelection none) }
  else d

def nameRegister (d : Dispatch) (k : Key) : Dispatch :=
  match k.printable?.map d.command.setRegister with
  | some (.ok b) => { d with command := b }
  | some (.error _) | none => d.fail

def digit? (c : Char) : Option Nat :=
  if c.isDigit then some (c.toNat - '0'.toNat) else none

def count? (d : Dispatch) (c : Char) : Option Dispatch :=
  match (digit? c).bind d.command.pushDigit? with
  | some b => some { d with command := b }
  | none =>
    if c = '\x22' then d.command.startRegister?.map fun b => { d with command := b } else none

/-- Takes a key before any mapping can: Escape, counts and registers, where keys are commands. -/
def intercept? (d : Dispatch) (k : Key) : Option Dispatch :=
  if d.mode.isTyping then none
  else if k.code = .esc then some d.escape
  else if d.waiting ≠ [] ∨ d.mode.isSelect then none
  else if d.command.isAwaitingRegister then some (d.nameRegister k)
  else k.printable?.bind d.count?

/-- No mapping takes the waiting keys. Where keys are typed, the first one is, and the others
are tried again; where they are commands, all are refused. -/
def unmapped (d : Dispatch) (text : Text) : Dispatch :=
  match d.waiting with
  | [] => d
  | first :: rest =>
    if d.mode.isTyping then
      { d with toTurn := d.insertKey first.key, waiting := [], queue := rest ++ d.queue }
    else if d.mode.isSelect then
      { d with toTurn := d.selectKey text first.key, waiting := [], queue := rest ++ d.queue }
    else d.fail

def apply (d : Dispatch) (text : Text) (m : Mapping) (consumed : Nat) : Dispatch :=
  let queue := d.waiting.drop consumed ++ d.queue
  match m.target with
  | .handler h => { d with toTurn := d.toTurn.run text h, waiting := [], queue }
  | .keys ks =>
    match d.budget with
    | 0 => { d.fail with queue := [] }
    | budget + 1 =>
      { d with waiting := [], queue := ks.map (fun key => ⟨key, m.remap⟩) ++ queue, budget }

def resolve (d : Dispatch) (km : Keymap) (text : Text) (final : Bool) : Dispatch :=
  match km.find d.mode d.waiting final with
  | .pending | .ambiguous => d
  | .found m _ consumed => d.apply text m consumed
  | .missing => d.unmapped text

/-- One step, or `none` when the turn is over. With `flush` the keys still waiting at the
end are resolved as they are. -/
def next? (km : Keymap) (text : Text) (flush : Bool) (d : Dispatch) : Option Dispatch :=
  match d.queue with
  | s :: queue =>
    match { d with queue }.intercept? s.key with
    | some d => some d
    | none =>
      some ({ d with queue, waiting := d.waiting ++ [s] }.resolve km text (flush && queue.isEmpty))
  | [] => if flush ∧ d.waiting ≠ [] then some (d.resolve km text true) else none

def keysLeft (d : Dispatch) : Nat := d.queue.length + d.waiting.length

/-- What a step lowers: first the mappings that may still apply, then the keys left, then
the keys to come. -/
def measure (d : Dispatch) : Nat × Nat × Nat := (d.budget, d.keysLeft, d.queue.length)

def Less (d' d : Dispatch) : Prop :=
  d'.budget < d.budget ∨ d'.budget = d.budget ∧ d'.keysLeft < d.keysLeft

theorem nameRegister_eq (d : Dispatch) (k : Key) :
    (d.nameRegister k).budget = d.budget ∧ (d.nameRegister k).queue = d.queue ∧
      (d.nameRegister k).waiting.length ≤ d.waiting.length := by
  unfold nameRegister
  split <;> simp [fail]

theorem escape_eq (d : Dispatch) :
    d.escape.budget = d.budget ∧ d.escape.queue = d.queue ∧
      d.escape.waiting.length ≤ d.waiting.length := by
  unfold escape
  split
  · simp
  · split <;> simp

theorem count?_eq {d d' : Dispatch} {c : Char} (h : d.count? c = some d') :
    d'.budget = d.budget ∧ d'.queue = d.queue ∧ d'.waiting.length ≤ d.waiting.length := by
  unfold count? at h
  split at h
  · obtain rfl := Option.some.inj h
    simp
  · split at h
    · obtain ⟨b, _, rfl⟩ := Option.map_eq_some_iff.1 h
      simp
    · contradiction

theorem intercept?_eq {d d' : Dispatch} {k : Key} (h : d.intercept? k = some d') :
    d'.budget = d.budget ∧ d'.queue = d.queue ∧ d'.waiting.length ≤ d.waiting.length := by
  unfold intercept? at h
  split at h
  · contradiction
  split at h
  · obtain rfl := Option.some.inj h
    exact escape_eq d
  split at h
  · contradiction
  split at h
  · obtain rfl := Option.some.inj h
    exact nameRegister_eq d k
  · obtain ⟨c, _, hc⟩ := Option.bind_eq_some_iff.1 h
    exact count?_eq hc

theorem unmapped_less {d : Dispatch} (text : Text) (h : d.waiting ≠ []) :
    (d.unmapped text).Less d := by
  unfold unmapped
  split
  · contradiction
  · next first rest hw =>
    refine Or.inr ?_
    split
    · simp [keysLeft, hw]
      omega
    · split
      · simp [keysLeft, hw]
        omega
      · simp [keysLeft, fail, hw]

theorem apply_less {d : Dispatch} (text : Text) (m : Mapping) (h : d.waiting ≠ []) :
    (d.apply text m m.keys.length).Less d := by
  have hw := List.length_pos_iff.2 h
  have hm := List.length_pos_iff.2 m.keys_ne_nil
  unfold apply
  split
  · refine Or.inr ⟨rfl, ?_⟩
    simp [keysLeft]
    omega
  · split
    · next hb =>
      refine Or.inr ⟨rfl, ?_⟩
      simp [keysLeft, fail]
      omega
    · next b hb => exact Or.inl (by simp [hb])

theorem resolve_less {d : Dispatch} (km : Keymap) (text : Text) (final : Bool)
    (h : d.waiting ≠ []) :
    d.resolve km text final = d ∧ final = false ∨ (d.resolve km text final).Less d := by
  unfold resolve
  split
  · next found => exact Or.inl ⟨rfl, km.final_of_find_waits (by rw [found]; rfl)⟩
  · next found => exact Or.inl ⟨rfl, km.final_of_find_waits (by rw [found]; rfl)⟩
  · next found =>
    rw [Keymap.consumed_of_find found]
    exact Or.inr (apply_less text _ h)
  · exact Or.inr (unmapped_less text h)

theorem Less.lex {d d' : Dispatch} (h : d'.Less d) :
    Prod.Lex (· < ·) (Prod.Lex (· < ·) (· < ·)) d'.measure d.measure := by
  rcases h with h | ⟨hb, hk⟩
  · exact Prod.Lex.left _ _ h
  · rw [measure, measure, hb]
    exact Prod.Lex.right _ (Prod.Lex.left _ _ hk)

theorem next?_lt {km : Keymap} {text : Text} {flush : Bool} {d d' : Dispatch}
    (h : d.next? km text flush = some d') :
    Prod.Lex (· < ·) (Prod.Lex (· < ·) (· < ·)) d'.measure d.measure := by
  unfold next? at h
  split at h
  · next s queue hq =>
    have hlen : d.queue.length = queue.length + 1 := by simp [hq]
    split at h
    · next hi =>
      obtain rfl := Option.some.inj h
      obtain ⟨hb, hq', hw⟩ := intercept?_eq hi
      exact Less.lex (Or.inr ⟨hb, by simp [keysLeft, hq'] at hw ⊢; omega⟩)
    · obtain rfl := Option.some.inj h
      let d₁ : Dispatch := { d with queue, waiting := d.waiting ++ [s] }
      have left : d₁.keysLeft = d.keysLeft := by simp [d₁, keysLeft, hlen]; omega
      rcases resolve_less (d := d₁) km text (flush && queue.isEmpty) (by simp [d₁])
        with ⟨same, _⟩ | less
      · rw [same, measure, measure, left]
        exact Prod.Lex.right _ (Prod.Lex.right _ (by simp [d₁, hlen]))
      · refine Less.lex ?_
        rw [Less, left] at less
        exact less
  · split at h
    · next hf =>
      obtain rfl := Option.some.inj h
      rcases resolve_less km text true hf.2 with ⟨_, no⟩ | less
      · contradiction
      · exact less.lex
    · contradiction

def run (km : Keymap) (text : Text) (flush : Bool) (d : Dispatch) : Dispatch :=
  match _h : d.next? km text flush with
  | some d' => run km text flush d'
  | none => d
termination_by d.measure
decreasing_by exact next?_lt _h

end Dispatch

inductive Call where
  | input (i : Input)
  | flush
  | abort
deriving DecidableEq, Inhabited

structure Response where
  editor : Editor
  cursor : Nat
  actions : Array Action
deriving DecidableEq, Inhabited

namespace Editor

def begin (e : Editor) (text : Text) (cursor : Nat) (queue : List Stroke) : Dispatch :=
  { toControl := e.toControl, waiting := e.waiting, queue, cursor := min cursor text.size }

end Editor

def Dispatch.response (d : Dispatch) : Response where
  editor := { toControl := d.toControl, waiting := d.waiting }
  cursor := d.cursor
  actions := d.actions

namespace Editor

def handle (e : Editor) (km : Keymap) (text : Text) (cursor : Nat) (i : Input) : Response :=
  ((e.begin text cursor [{ key := i.toKey }]).run km text false).response

def flush (e : Editor) (km : Keymap) (text : Text) (cursor : Nat) : Response :=
  ((e.begin text cursor []).run km text true).response

def abort (e : Editor) : Editor := { toControl := e.toControl.dropCommand, waiting := [] }

def starting (m : LastingMode) (r : EndRule) : Editor := { modes := { mode := m.toMode, endRule := r } }

def respond (e : Editor) (km : Keymap) (text : Text) (cursor : Nat) : Call → Response
  | .input i => e.handle km text cursor i
  | .flush => e.flush km text cursor
  | .abort => { editor := e.abort, cursor, actions := #[] }

def waitingKeys (e : Editor) : List Key := e.waiting.map Stroke.key

def selection? (e : Editor) (cursor : Nat) : Option Selection := e.modes.selection? cursor

end Editor

end ModalEditing
