import Mathlib
import ModalEditing.Host.Session
import ModalEditing.Proofs.SettingsTable
import ModalEditing.Proofs.TurnFrame

/-! A mapping and the keys that it produces, pressed one after another. Pressing the mapped key
is a single turn, and all of it sees the text as it was before; of the produced keys each sees
what the host has made of the text so far. Both come to the same if no step tells the texts
apart. -/

namespace ModalEditing

theorem Text.applyAll_append (t : Text) (as bs : Array Action) :
    t.applyAll (as ++ bs) = (t.applyAll as).applyAll bs := by
  simp [applyAll]

namespace Dispatch

variable {km : Keymap} {text : Text} {d : Dispatch}

theorem mem_trace_trans {flush : Bool} {x y : Dispatch} (hx : x ∈ d.trace km text flush)
    (hy : y ∈ x.trace km text flush) : y ∈ d.trace km text flush := by
  induction d using turn_induction km text flush with
  | ended d h =>
    rw [trace_of_none h, List.mem_singleton] at hx
    exact hx ▸ hy
  | step d d' h ih =>
    rw [trace_of_some h, List.mem_cons] at hx
    rcases hx with rfl | hx
    · exact hy
    · rw [trace_of_some h]
      exact List.mem_cons_of_mem _ (ih hx)

theorem budget_of_mem_trace {flush : Bool} :
    ∀ x ∈ d.trace km text flush, x.budget ≤ d.budget := by
  refine trace_invariant km text flush ?_ (Nat.le_refl d.budget)
  intro x x' le hs
  have used := step_budget hs
  omega

end Dispatch

theorem Handler.modes_of_typing (f : Handler) {mode : Mode} (hm : mode.isTyping) :
    f.modes.meets mode.toModeSet = false := by
  have typed : mode.toModeSet = { insert := true } := by
    cases mode with
    | insert => rfl
    | replace => rfl
    | _ => contradiction
  rw [typed]
  cases f with
  | command c => cases c <;> rfl
  | _ => rfl

theorem Dispatch.next?_of_typing {km : Keymap} {d : Dispatch} (hkm : km.Fits)
    (hm : d.mode.isTyping) (text text' : Text) :
    d.next? km text false = d.next? km text' false := by
  cases hq : d.queue with
  | nil =>
    have ended (t : Text) : d.next? km t false = none :=
      next?_eq_none_iff.2 ⟨hq, fun flush => by contradiction⟩
    rw [ended, ended]
  | cons s queue =>
    have uncaught : { d with queue }.intercept? s.key = none := if_pos hm
    have looks : d.looksUp false := by rw [looksUp, hq]; exact congrArg Option.isNone uncaught
    have mode : d.accept.mode.isTyping := by rw [Control.mode, accept_toTurn]; exact hm
    rw [next?_of_answer looks, next?_of_answer looks]
    cases ha : d.answer km false with
    | pending => rfl
    | ambiguous => rfl
    | missing => simp only [unmapped, mode, if_true]
    | found m i =>
      obtain ⟨mem, meets⟩ := mapping_of_answer ha
      have kept := hkm m mem
      simp only [apply]
      cases target : m.target with
      | keys ks => rfl
      | handler f =>
        rw [Mapping.Fits, target] at kept
        rw [kept, f.modes_of_typing hm] at meets
        contradiction

namespace Session

def turn (s : Session) (i : Input) : List Dispatch :=
  (s.editor.begin s.text s.cursor [{ key := i.toKey }]).trace s.keymap s.text false

def turns (s : Session) : List Input → List Dispatch
  | [] => []
  | i :: is => s.turn i ++ (s.press i).1.turns is

/-- No call in handling the inputs starts past the text, and each step comes out as it would
with `text` in place of what the host has made of it. -/
def Indifferent (text : Text) (s : Session) : List Input → Prop
  | [] => True
  | i :: is => s.cursor ≤ s.text.size ∧
    (∀ d ∈ s.turn i, d.next? s.keymap s.text false = d.next? s.keymap text false) ∧
    (s.press i).1.Indifferent text is

section

variable {s : Session} {text : Text} {i : Input} {is : List Input}

theorem indifferent_cons_of_text (place : s.cursor ≤ s.text.size) (unchanged : s.text = text)
    (others : (s.press i).1.Indifferent text is) : s.Indifferent text (i :: is) :=
  ⟨place, fun _ _ => by rw [unchanged], others⟩

theorem indifferent_cons_of_typing (place : s.cursor ≤ s.text.size) (hkm : s.keymap.Fits)
    (typing : (s.turn i).all fun d => d.mode.isTyping)
    (others : (s.press i).1.Indifferent text is) : s.Indifferent text (i :: is) :=
  ⟨place, fun _ hd => Dispatch.next?_of_typing hkm (List.all_eq_true.1 typing _ hd) _ _, others⟩

end

/-- The next key of a turn, pressed by itself. The turn comes to a state that is done with the
key, and after the press the host holds what it would hold if the turn ended there. -/
theorem press_of_queue {s : Session} {k : Key} {rest : List Stroke} {d : Dispatch}
    (hq : d.queue = { key := k } :: rest) (hk : k.normalize = k)
    (budget : d.budget ≤ expansionLimit)
    (limit : ∀ x ∈ d.trace s.keymap s.text false, x.overruns s.keymap false = false)
    (place : (s.accept d.response).cursor ≤ (s.accept d.response).text.size)
    (steps : ∀ x ∈ (s.accept d.response).turn (.key k),
      x.next? s.keymap (s.accept d.response).text false = x.next? s.keymap s.text false) :
    ∃ d' ∈ d.trace s.keymap s.text false,
      d'.queue = rest ∧ ((s.accept d.response).press (.key k)).1 = s.accept d'.response := by
  let now : Text := s.text.applyAll d.actions
  let x := (s.accept d.response).editor.begin now d.cursor [{ key := k.normalize }]
  let x' := x.run s.keymap now false
  have behind : x.behind d.actions rest d.budget = d := by
    have cursor : min d.cursor now.size = d.cursor := Nat.min_eq_left place
    have queue : [{ key := k.normalize }] ++ rest = d.queue := by rw [hk, hq]; rfl
    show ({ d with
      cursor := min d.cursor now.size, actions := d.actions ++ #[]
      queue := [{ key := k.normalize }] ++ rest } : Dispatch) = d
    rw [cursor, queue, Array.append_empty]
  obtain ⟨b, reached⟩ : ∃ b, x'.behind d.actions rest b ∈ d.trace s.keymap s.text false := by
    rw [← behind] at limit
    have held := Dispatch.run_behind d.actions rest x budget limit steps
    rwa [behind] at held
  refine ⟨x'.behind d.actions rest b, reached, ?_, ?_⟩
  · have ended := Dispatch.next?_run s.keymap now false x
    have empty : x'.queue = [] := (Dispatch.next?_eq_none_iff.1 ended).1
    show x'.queue ++ rest = rest
    rw [empty, List.nil_append]
  · let after := s.accept (x'.behind d.actions rest b).response
    have text : now.applyAll x'.actions = after.text :=
      (s.text.applyAll_append d.actions x'.actions).symm
    exact congrArg (fun t : Text => ({ after with text := t } : Session)) text

theorem pressAll_of_queue {s : Session} (ks : List Key) {d : Dispatch}
    (hq : d.queue = ks.map fun key => { key }) (hk : ∀ k ∈ ks, k.normalize = k)
    (budget : d.budget ≤ expansionLimit)
    (limit : ∀ x ∈ d.trace s.keymap s.text false, x.overruns s.keymap false = false)
    (same : (s.accept d.response).Indifferent s.text (ks.map Input.key)) :
    ((s.accept d.response).pressAll (ks.map Input.key)).1 =
      s.accept (d.run s.keymap s.text false).response := by
  -- each press takes the session to where the one turn stands once it is done with the key
  induction ks generalizing d with
  | nil =>
    rw [Dispatch.run_of_empty hq]
    rfl
  | cons k ks ih =>
    rw [List.forall_mem_cons] at hk
    obtain ⟨place, steps, others⟩ := same
    obtain ⟨d', reached, queue, pressed⟩ := press_of_queue hq hk.1 budget limit place steps
    rw [pressed] at others
    have last := ih queue hk.2 (Nat.le_trans (Dispatch.budget_of_mem_trace d' reached) budget)
      (fun y hy => limit y (Dispatch.mem_trace_trans reached hy)) others
    rw [Dispatch.run_of_mem_trace reached] at last
    rw [← last, ← pressed]
    rfl

end Session

/-- In Normal mode the mapping `m`, at the place `i`, takes the key `k` at once. No count and no
register takes it, no mapping goes on from it, and none after `m` takes it. -/
structure Keymap.TakesAtOnce (km : Keymap) (k : Key) (m : Mapping) (i : Nat) : Prop where
  esc : k.code ≠ .esc
  count : ∀ c ∈ k.printable?, c.isDigit = false ∧ c ≠ '\x22'
  getElem? : km.mappings[i]? = some m
  keys : m.keys = [k]
  normal : m.modes.normal = true
  newest : ∀ j m', km.mappings[j]? = some m' → m'.modes.normal → m'.keys = [k] → j ≤ i
  last : ∀ m' ∈ km.mappings, m'.modes.normal → [k] <+: m'.keys → m'.keys = [k]

namespace Keymap.TakesAtOnce

variable {km : Keymap} {k : Key} {m : Mapping} {i : Nat}

theorem find (h : km.TakesAtOnce k m i) : km.find .normal [{ key := k }] false = .found m i 1 := by
  have meets (m' : Mapping) : m'.applies Mode.normal.toModeSet false = m'.modes.normal := by
    simp [Mapping.applies, Mode.toModeSet, ModeSet.meets]
  have still : ¬ km.GoesOn Mode.normal.toModeSet [k] false := by
    rintro ⟨m', hm', applies, goes, longer⟩
    rw [meets] at applies
    rw [h.last m' hm' applies goes] at longer
    exact Nat.lt_irrefl _ longer
  have lookup : km.lookup Mode.normal.toModeSet [k] false = .found m i 1 := by
    rw [lookup_eq_longest (List.cons_ne_nil k []) still, longest_eq_found_iff]
    refine ⟨⟨h.getElem?, ?_, ?_, ?_⟩, by rw [h.keys]; rfl⟩
    · rw [meets]
      exact h.normal
    · exact h.keys ▸ List.prefix_rfl
    · intro j m' hj applies start
      rw [meets] at applies
      have some_key := List.length_pos_iff.2 m'.keys_ne_nil
      have all : m'.keys = [k] := start.eq_of_length_le some_key
      rw [all, h.keys]
      exact Or.inr ⟨rfl, h.newest j m' hj applies all⟩
  exact lookup

theorem isMappable (h : km.TakesAtOnce k m i) : k.isMappable := by
  rw [Key.isMappable, Bool.and_eq_true, bne_iff_ne]
  refine ⟨h.esc, ?_⟩
  cases hc : k.printable? with
  | none => rfl
  | some c => simp [h.count c hc]

theorem next? (h : km.TakesAtOnce k m i) {ks : List Key} (target : m.target = .keys ks)
    (remap : m.remap = true) {d : Dispatch} (mode : d.mode = .normal) (waiting : d.waiting = [])
    (command : d.command = {}) (queue : d.queue = [{ key := k }]) {n : Nat}
    (budget : d.budget = n + 1) (text : Text) :
    d.next? km text false =
      some { d with waiting := [], queue := ks.map fun key => { key }, budget := n } := by
  have named : d.command.isAwaitingRegister = false := by rw [command]; rfl
  have uncaught := Dispatch.intercept?_of_mappable (d := { d with queue := [] }) h.isMappable named
  have looks : d.looksUp false := by simp [Dispatch.looksUp, queue, uncaught]
  have accepted : d.accept = { d with queue := [], waiting := [{ key := k }] } := by
    simp [Dispatch.accept, queue, waiting]
  have answer : d.answer km false = .found m i 1 := by
    rw [Dispatch.answer, accepted, mode]
    exact h.find
  rw [Dispatch.next?_of_answer looks, answer, accepted]
  simp [Dispatch.apply, target, remap, budget]

end Keymap.TakesAtOnce

def Registry.mappingQ (ks : List Key) : Registry :=
  Registry.standard.add { normal := true } [Key.plain 'Q'] (.keys ks) true

theorem Settings.keymap_mappingQ {produced : String} {ks : List Key}
    (h : Key.readAll produced = .ok ks) :
    Settings.keymap { mappings := [{ modes := "n", keys := "Q", produced }] } =
      .ok (Registry.mappingQ ks).keymap := by
  have modes : ModeSet.ofLetters "n" = .ok { normal := true } := by cbv
  have keys : Key.readAll "Q" = .ok [Key.plain 'Q'] := by cbv
  have read : (Directive.map "n" "Q" produced true).read =
      .ok (.keys { normal := true } [Key.plain 'Q'] ks true) := by
    rw [Directive.read, modes, keys, h]
    rfl
  have followed : Registry.standard.follow [.map "n" "Q" produced true] =
      .ok (Registry.mappingQ ks) := by
    rw [Registry.follow, List.foldlM_cons, read]
    rfl
  exact Except.bind_eq_ok_iff.2 ⟨_, followed, rfl⟩

theorem Registry.mappingQ_takesAtOnce (ks : List Key) :
    ∃ m i, (mappingQ ks).keymap.TakesAtOnce (Key.plain 'Q') m i ∧ m.target = .keys ks ∧
      m.remap = true := by
  have free : ∀ m ∈ standard.mappings, ¬ [Key.plain 'Q'] <+: m.keys := by decide +kernel
  let m : Mapping :=
    { modes := { normal := true }, keys := [Key.plain 'Q'], target := .keys ks, remap := true
      owner := standard.owner, keys_ne_nil := List.cons_ne_nil _ _ }
  have table : (mappingQ ks).keymap.mappings = standard.mappings ++ [m] := rfl
  refine ⟨m, standard.mappings.length, ?_, rfl, rfl⟩
  refine ⟨by decide, ?_, ?_, rfl, rfl, ?_, ?_⟩
  · intro c hc
    obtain rfl := Option.some.inj hc
    decide
  · rw [table, List.getElem?_concat_length]
  · intro j m' hj _ _
    have inside := (List.getElem?_eq_some_iff.1 hj).1
    rw [table, List.length_append, List.length_singleton] at inside
    omega
  · intro m' hm' _ goes
    rw [table, List.mem_append, List.mem_singleton] at hm'
    rcases hm' with old | rfl
    · exact absurd goes (free m' old)
    · rfl

namespace Session

/-- Pressing a mapped key comes to the same as pressing the keys that the mapping produces, if
for these it makes no difference what the ones before have done to the text. -/
theorem press_mapped {cfg : Settings} {s : Session} (hs : cfg.keymap = .ok s.keymap) {k : Key}
    {m : Mapping} {i : Nat} (takes : s.keymap.TakesAtOnce k m i) {ks : List Key}
    (target : m.target = .keys ks) (remap : m.remap = true) (mode : s.editor.mode = .normal)
    (waiting : s.editor.waiting = []) (command : s.editor.command = {})
    (cursor : s.cursor ≤ s.text.size) {input : Input} (hi : input.toKey = k)
    (limit : ∀ d ∈ s.turn input, d.overruns s.keymap false = false)
    (same : s.Indifferent s.text (ks.map Input.key)) :
    (s.press input).1 = (s.pressAll (ks.map Input.key)).1 := by
  have produced : ∀ k ∈ ks, k.normalize = k := by
    have kept := Settings.keymap_fits hs m (List.mem_of_getElem? takes.getElem?)
    rw [Mapping.Fits, target] at kept
    exact kept
  let d := s.editor.begin s.text s.cursor [{ key := input.toKey }]
  let d' : Dispatch :=
    { d with waiting := [], queue := ks.map fun key => { key }, budget := expansionLimit - 1 }
  have first : d.next? s.keymap s.text false = some d' :=
    takes.next? target remap mode waiting command (by rw [← hi]; rfl) rfl s.text
  have rest : ∀ x ∈ d'.trace s.keymap s.text false, x ∈ s.turn input := by
    intro x hx
    rw [turn, Dispatch.trace_of_some first]
    exact List.mem_cons_of_mem _ hx
  have start : s.accept d'.response = s := by
    have place : min s.cursor s.text.size = s.cursor := Nat.min_eq_left cursor
    have editor : ({ toControl := s.editor.toControl, waiting := [] } : Editor) = s.editor := by
      rw [← waiting]
    show ({ s with
      editor := { toControl := s.editor.toControl, waiting := [] }
      cursor := min s.cursor s.text.size } : Session) = s
    rw [editor, place]
  have typed := pressAll_of_queue ks (d := d') rfl produced (Nat.sub_le _ _)
    (fun x hx => limit x (rest x hx)) (by rw [start]; exact same)
  rw [start, ← Dispatch.run_of_some first] at typed
  exact typed.symm

theorem press_mapped_change :
    let input : Input := .key (Key.plain 'Q')
    let produced : List Input := (Key.typing "ccx").map Input.key
    let s : Session :=
      { keymap := (Registry.mappingQ (Key.typing "ccx")).keymap, text := Text.ofString "a\nb" }
    Settings.keymap { mappings := [{ modes := "n", keys := "Q", produced := "ccx" }] } =
        .ok s.keymap ∧
      (s.press input).1 = (s.pressAll produced).1 ∧
      (s.press input).1.text = Text.ofString "xb" := by
  intro input produced s
  have read : Key.readAll "ccx" = .ok (Key.typing "ccx") := by cbv
  have keymap := Settings.keymap_mappingQ read
  have fits : s.keymap.Fits := Settings.keymap_fits keymap
  obtain ⟨m, i, takes, target, remap⟩ := Registry.mappingQ_takesAtOnce (Key.typing "ccx")
  have limit : (s.turn input).all (fun d => !d.overruns s.keymap false) = true := by cbv
  let c : Input := .key (Key.plain 'c')
  let x : Input := .key (Key.plain 'x')
  let s₂ : Session := ((s.press c).1.press c).1
  have same : s.Indifferent s.text [c, c, x] := by
    refine indifferent_cons_of_text (Nat.zero_le _) rfl ?_
    refine indifferent_cons_of_text (by cbv) (by cbv) ?_
    exact indifferent_cons_of_typing (by cbv) fits (by cbv) trivial
  refine ⟨keymap, ?_, by cbv⟩
  refine press_mapped keymap takes target remap rfl rfl rfl (Nat.zero_le _) rfl ?_ same
  intro d hd
  simpa using List.all_eq_true.1 limit d hd

theorem press_mapped_stale :
    let input : Input := .key (Key.plain 'Q')
    let produced : List Input := (Key.typing "dddd").map Input.key
    let s : Session :=
      { keymap := (Registry.mappingQ (Key.typing "dddd")).keymap
        text := Text.ofString "ab\nc\nd\n" }
    Settings.keymap { mappings := [{ modes := "n", keys := "Q", produced := "dddd" }] } =
        .ok s.keymap ∧
      (∃ m i, s.keymap.TakesAtOnce (Key.plain 'Q') m i ∧
        m.target = .keys (Key.typing "dddd") ∧ m.remap = true) ∧
      s.editor.mode = .normal ∧ s.editor.waiting = [] ∧ s.editor.command = {} ∧
      s.cursor ≤ s.text.size ∧
      (∀ d ∈ s.turn input, d.overruns s.keymap false = false) ∧
      (∀ d ∈ s.turns produced, d.overruns s.keymap false = false) ∧
      (s.press input).1.text = Text.ofString "\n" ∧
      (s.pressAll produced).1.text = Text.ofString "d\n" ∧
      (s.press input).1.text ≠ (s.pressAll produced).1.text := by
  intro input produced s
  have read : Key.readAll "dddd" = .ok (Key.typing "dddd") := by cbv
  have one : (s.turn input).all (fun d => !d.overruns s.keymap false) = true := by cbv
  have each : (s.turns produced).all (fun d => !d.overruns s.keymap false) = true := by cbv
  have once : (s.press input).1.text = Text.ofString "\n" := by cbv
  have apart : (s.pressAll produced).1.text = Text.ofString "d\n" := by cbv
  refine ⟨Settings.keymap_mappingQ read, Registry.mappingQ_takesAtOnce _, rfl, rfl, rfl,
    Nat.zero_le _, ?_, ?_, once, apart, by rw [once, apart]; decide⟩
  · intro d hd
    simpa using List.all_eq_true.1 one d hd
  · intro d hd
    simpa using List.all_eq_true.1 each d hd

end Session

end ModalEditing
