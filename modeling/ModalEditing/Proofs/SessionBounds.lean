import ModalEditing.Host.Session
import ModalEditing.Proofs.ActionBounds
import ModalEditing.Proofs.StandardDispatch

/-! Sessions with the standard keymap stay within their texts. Whatever the editor is called
for, every action fits the text at its moment, and cursor and anchor lie within the text that
the call leaves. -/

namespace ModalEditing

namespace Dispatch

variable {text : Text} {flush : Bool} {d : Dispatch}

/-- What holds all along a turn: while no handler has been found, the text is as it was. -/
structure Within (text : Text) (d : Dispatch) : Prop where
  bounded : d.toTurn.Bounded text
  agrees : d.toControl.Agrees
  resolves : d.Spent ∨ d.Undecided ∧ d.now text = text

theorem step_within {d' : Dispatch} (h : d.Within text)
    (hs : Step Keymap.standard text flush d d') : d'.Within text := by
  have agrees := step_agrees Keymap.standard_fits h.agrees hs
  rcases h.resolves with spent | ⟨undecided, same⟩
  · exact absurd hs spent.no_step
  · refine ⟨?_, agrees, ?_⟩
    · rw [← same] at hs
      exact (step_effect Keymap.standard_fits hs).bounded h.bounded
    · refine (undecided_step undecided hs).imp_right ?_
      rintro ⟨still, turn⟩
      exact ⟨still, by rw [turn]; exact same⟩

theorem run_within (text : Text) (flush : Bool) (h : d.Within text) :
    (d.run Keymap.standard text flush).Within text :=
  run_invariant Keymap.standard text flush (fun _ _ kept step => step_within kept step) h

end Dispatch

namespace Session

structure Sound (s : Session) : Prop where
  keymap : s.keymap = .standard
  cursor : s.cursor ≤ s.text.size
  anchor : s.editor.modes.Within s.text.size
  agrees : s.editor.toControl.Agrees
  undecided : (s.editor.begin s.text s.cursor []).Undecided

variable {s : Session}

theorem Sound.anchor_le (h : s.Sound) : ∀ a ∈ s.editor.modes.anchor, a ≤ s.text.size := by
  intro a ha
  have selects := h.agrees.anchor
  rw [ha] at selects
  exact h.anchor selects.symm a ha

theorem begin_within (h : s.Sound) {queue : List Stroke} (hq : queue.length ≤ 1)
    (hr : ∀ x ∈ queue, x.remap = true) :
    (s.editor.begin s.text s.cursor queue).Within s.text where
  bounded := ⟨trivial, Nat.min_le_right _ _, h.anchor⟩
  agrees := h.agrees
  resolves := Or.inr ⟨h.undecided.next_turn rfl rfl rfl hq hr, rfl⟩

theorem accept_sound {d : Dispatch} (h : s.Sound) (hd : d.Within s.text) (hq : d.queue = []) :
    (s.accept d.response).Sound where
  keymap := h.keymap
  cursor := hd.bounded.cursor
  anchor := hd.bounded.anchor
  agrees := hd.agrees
  undecided := Dispatch.undecided_of_ended (hd.resolves.imp_right And.left) hq _ _

theorem abort_sound (h : s.Sound) : (s.call .abort).1.Sound where
  keymap := h.keymap
  cursor := h.cursor
  anchor := Turn.dropCommand_within h.anchor
  agrees := Control.dropCommand_agrees h.agrees.toSound
  undecided := Dispatch.undecided_of_idle rfl rfl

theorem turn_sound (h : s.Sound) (flush : Bool) (queue : List Stroke) (hq : queue.length ≤ 1)
    (hr : ∀ x ∈ queue, x.remap = true) :
    let r := ((s.editor.begin s.text s.cursor queue).run s.keymap s.text flush).response
    s.text.Admits r.actions.toList ∧ (s.accept r).Sound := by
  rw [h.keymap]
  have within := Dispatch.run_within s.text flush (begin_within h hq hr)
  have ended := Dispatch.next?_run .standard s.text flush (s.editor.begin s.text s.cursor queue)
  have spent := (Dispatch.next?_eq_none_iff.1 ended).1
  exact ⟨within.bounded.admits, accept_sound h within spent⟩

theorem call_sound (h : s.Sound) (c : Call) :
    s.text.Admits (s.call c).2.toList ∧ (s.call c).1.Sound := by
  cases c with
  | input i => exact turn_sound h false [{ key := i.toKey }] (Nat.le_refl 1) (by simp)
  | flush => exact turn_sound h true [] (Nat.zero_le 1) (by simp)
  | abort => exact ⟨trivial, abort_sound h⟩

def callAll (s : Session) (cs : List Call) : Session := cs.foldl (fun s c => (s.call c).1) s

theorem callAll_sound (h : s.Sound) (cs : List Call) : (s.callAll cs).Sound := by
  induction cs generalizing s with
  | nil => exact h
  | cons c cs ih => exact ih (call_sound h c).2

def starting (r : EndRule) (text : Text) (cursor : Nat) : Session :=
  { editor := .starting .normal r, keymap := .standard, text, cursor }

theorem starting_sound (r : EndRule) {text : Text} {cursor : Nat} (h : cursor ≤ text.size) :
    (starting r text cursor).Sound where
  keymap := rfl
  cursor := h
  anchor := ModeState.within_of_unselected rfl
  agrees := Editor.starting_agrees .normal r
  undecided := Dispatch.undecided_of_idle rfl rfl

/-- After any calls, the actions of the next one fit the text at their moments, and cursor and
anchor lie within the text that it leaves. -/
theorem calls_stay_within (r : EndRule) {text : Text} {cursor : Nat} (h : cursor ≤ text.size)
    (cs : List Call) (c : Call) :
    let s := (starting r text cursor).callAll cs
    let (s', actions) := s.call c
    s.text.Admits actions.toList ∧ s'.text = s.text.applyAll actions ∧
      s'.cursor ≤ s'.text.size ∧ ∀ a ∈ s'.editor.modes.anchor, a ≤ s'.text.size := by
  have sound := callAll_sound (starting_sound r h) cs
  obtain ⟨admits, sound'⟩ := call_sound sound c
  exact ⟨admits, rfl, sound'.cursor, sound'.anchor_le⟩

theorem calls_stay_within_visual_delete :
    let s := (starting .inclusive #['a', 'b'] 1).callAll [.input (.key (Key.plain 'v'))]
    let s' := (s.call (.input (.key (Key.plain 'd')))).1
    1 ≤ (#['a', 'b'] : Text).size ∧ s'.text = #['a'] ∧ s'.cursor ≤ 1 := by
  intro s s'
  have inside : 1 ≤ (#['a', 'b'] : Text).size := by decide
  have within := calls_stay_within .inclusive inside [.input (.key (Key.plain 'v'))]
    (.input (.key (Key.plain 'd')))
  have left : s'.text = #['a'] := by cbv
  refine ⟨inside, left, ?_⟩
  have cursor : s'.cursor ≤ s'.text.size := within.2.2.1
  rw [left] at cursor
  exact cursor

end Session

end ModalEditing
