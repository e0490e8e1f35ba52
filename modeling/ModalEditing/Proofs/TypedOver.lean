import ModalEditing.Proofs.CoveredText
import ModalEditing.Proofs.ShownSelection
import ModalEditing.Proofs.SpelledKeys

/-! Typing in the place of a selection. The selection of Visual mode may be changed and the
character typed then, or be handed to Select and typed over: both come to the same text with the
cursor behind the character. -/

namespace ModalEditing

namespace Keymap

variable {km : Keymap} {mode : Mode}

theorem standard_select_unprintable : ∀ m ∈ standard.mappings,
    m.modes.select → m.firstKey.printable? = none := by
  decide +kernel

/-- No character is mapped where keys are typed. -/
theorem BuiltIn.none_begins (h : km.BuiltIn) (typed : mode.isTyping ∨ mode.isSelect) (x : Char) :
    ∀ m ∈ km.mappings, m.modes.meets mode.toModeSet → m.firstKey ≠ Key.plain x := by
  intro m hm meets same
  obtain ⟨insert, _⟩ := standard_typed m (h.mem_standard hm)
  have unprintable := standard_select_unprintable m (h.mem_standard hm)
  rw [same, Key.printable?_plain] at unprintable
  have select : m.modes.select = false := Bool.eq_false_iff.2 (nomatch unprintable ·)
  cases mode <;>
    simp_all [Mode.toModeSet, ModeSet.meets, Mode.isTyping, Mode.isSelect]

end Keymap

namespace ModeState

variable {s : ModeState} {t : Text} {shape : Shape} {next : LastingMode} {oneShot : Bool}
  {anchor cursor : Nat}

theorem switch_endRule (s : ModeState) (e : ModeEvent) (t : Text) (cursor : Nat) :
    (s.switch e t cursor).1.endRule = s.endRule := by
  unfold switch
  simp only
  split
  · split
    · split
      · exact widen_endRule _ _ _ _
      · split
        · unfold narrow
          split
          · rfl
          · split <;> rfl
        · rfl
    · rfl
  · rfl

theorem handed_over (mode : s.mode = .visual shape next oneShot) (ha : s.anchor = some anchor)
    (le : anchor ≤ t.size) (hc : cursor ≤ t.size) :
    let (s', cursor') := s.toggleSelectVisual t cursor
    s'.mode = .select shape next ∧ s'.endRule = s.endRule ∧ cursor' ≤ t.size ∧
      s'.covered? t cursor' = s.covered? t cursor := by
  have after : s.mode.after .toggleSelectVisual = .select shape next := by rw [mode]; rfl
  have selects : s.mode.hasSelection := by rw [mode]; rfl
  have within : s.Within t.size := by
    intro _ a held
    rw [ha] at held
    exact Option.some.inj held ▸ le
  exact ⟨(switch_mode s _ t cursor).trans after, switch_endRule s _ t cursor,
    (switch_within t within hc fun _ => selects).2, switch_to_select_covers mode after ha hc⟩

end ModeState

namespace Turn

variable {t : Turn} {text : Text} {x : Selection}

theorem selectKey_of_selection (h : t.selection? = some x) (c : Char) :
    let left : Turn := { t with modes := t.modes.transition .enterInsert }
    let deleted :=
      ((left.emit (.operate .delete (x.span text) x.shape 1 none)).emit (.setSelection none)).moveTo
        (x.span text).start
    t.selectKey text (Key.plain c) =
      { deleted.emit (.insertText (x.span text).start c.toString) with
        cursor := (x.span text).start + 1 } := by
  show t.replaceSelection text (some c) = _
  rw [replaceSelection, h]
  rfl

theorem insertKey_of_insert (h : t.mode = .insert) (c : Char) :
    t.insertKey (Key.plain c) =
      { t.emit (.insertText t.cursor c.toString) with cursor := t.cursor + 1 } := by
  show t.typeChar c = _
  rw [typeChar, h]
  rfl

theorem now_withModes (t : Turn) (text : Text) (change : ModeState × Nat) :
    (t.withModes change).now text = t.now text := by
  unfold withModes settleAt
  split
  · rfl
  · exact now_moveTo _ text _

end Turn

namespace Session

variable {s : Session} {r : Span} {shown : Option Selection}

def changed (s : Session) (r : Span) : Session :=
  { s with
    editor := { modes := { mode := .insert, anchor := none, endRule := s.editor.modes.endRule } }
    text := s.text.removeSpan r
    cursor := r.start }

def put (s : Session) (x : Char) : Session :=
  { s with text := s.text.insertClamped s.cursor x.toString, cursor := s.cursor + 1 }

def handedOver (s : Session) : Session :=
  let (modes, cursor) := s.editor.modes.toggleSelectVisual s.text s.cursor
  { s with editor := { modes }, cursor }

theorem press_change (h : s.Idle) (builtIn : s.keymap.BuiltIn) (visual : s.editor.mode.isVisual)
    (covered : s.editor.modes.covered? s.text s.cursor = some r) {i : Input}
    (hi : i.toKey = Key.plain 'c') :
    (s.press i).1 = s.changed r ∧ ∀ x, Action.shownAfter x (s.press i).2 = none := by
  obtain ⟨y, selection, rfl⟩ := Option.map_eq_some_iff.1 covered
  have spelled : Registry.standard.keymap.Spells s.editor.mode (.operator .change) 0 [i.toKey] := by
    rw [hi]
    refine Registry.standard_spells_operator .change ?_
    rw [Mode.toModeSet_of_visual visual]
    rfl
  have ran : s.handled (.operator .change) = _ :=
    (Turn.operator_of_visual visual .change).trans
      (Turn.operateOnSelection_of_selection (t := s.opening) selection s.text .change)
  rw [h.press_spells builtIn.prefixFree (builtIn.spells spelled), ran]
  refine ⟨?_, fun x => rfl⟩
  rfl

theorem press_put (h : s.Idle) (builtIn : s.keymap.BuiltIn) (insert : s.editor.mode = .insert)
    {i : Input} {x : Char} (hi : i.toKey = Key.plain x) :
    (s.press i).1 = s.put x ∧ ∀ y, Action.shownAfter y (s.press i).2 = y := by
  have typing : s.editor.mode.isTyping := by rw [insert]; rfl
  have ran : s.typed (Key.plain x) = s.opening.insertKey (Key.plain x) := by
    rw [typed, insert]
    rfl
  rw [Turn.insertKey_of_insert (t := s.opening) insert x] at ran
  rw [press_unmapped h.waiting h.cursor (hi ▸ builtIn.none_begins (Or.inl typing) x)
    (Or.inl typing), hi, ran]
  refine ⟨?_, fun y => rfl⟩
  have editor : ({ toControl := s.editor.toControl } : Editor) = s.editor := by
    rw [← h.waiting]
  exact congrArg (fun e : Editor => { s.put x with editor := e }) editor

theorem press_handOver (h : s.Idle) (builtIn : s.keymap.BuiltIn) (visual : s.editor.mode.isVisual)
    {i : Input} (hi : i.toKey = Key.ctrl 'g') : (s.press i).1 = s.handedOver := by
  have spelled : Registry.standard.keymap.Spells s.editor.mode (.command .toggleSelectVisual) 0
      [i.toKey] := by
    rw [hi]
    have listed : (ModeSet.selecting, Key.ctrl 'g', .toggleSelectVisual) ∈ selectionKeys := by
      decide
    refine Registry.standard_spells_selection listed ?_
    rw [Mode.toModeSet_of_visual visual]
    rfl
  let change := s.editor.modes.toggleSelectVisual s.text s.cursor
  let t : Turn := { s.opening with command := {} }
  have ran : s.handled (.command .toggleSelectVisual) =
      { (t.withModes change).showSelection with column := none } := rfl
  have text : (s.handled (.command .toggleSelectVisual)).now s.text = s.text := by
    rw [ran]
    exact (Turn.now_emit_still _ _ rfl).trans (Turn.now_withModes t s.text change)
  rw [h.press_spells builtIn.prefixFree (builtIn.spells spelled), accept_response, text, ran]
  show ({ s with
    editor := { toControl := { (t.withModes change).toControl with column := none } }
    cursor := (t.withModes change).cursor } : Session) = _
  rw [Turn.withModes_toControl, Turn.withModes_cursor]
  rfl

theorem press_over (h : s.Idle) (builtIn : s.keymap.BuiltIn) (select : s.editor.mode.isSelect)
    (column : s.editor.column = none)
    (covered : s.editor.modes.covered? s.text s.cursor = some r) {i : Input} {x : Char}
    (hi : i.toKey = Key.plain x) :
    (s.press i).1 = (s.changed r).put x ∧ ∀ y, Action.shownAfter y (s.press i).2 = none := by
  obtain ⟨y, selection, rfl⟩ := Option.map_eq_some_iff.1 covered
  have ran : s.typed (Key.plain x) = s.opening.selectKey s.text (Key.plain x) := if_pos select
  rw [Turn.selectKey_of_selection (t := s.opening) selection x] at ran
  rw [press_unmapped h.waiting h.cursor (hi ▸ builtIn.none_begins (Or.inr select) x)
    (Or.inr ⟨select, by rw [hi]; exact KeyCode.noConfusion⟩), hi, ran]
  refine ⟨?_, fun y => rfl⟩
  rw [accept_response, put, changed, ← h.command, ← column]
  rfl

/-- To change the selection and type a character comes to the same as to trade Visual for Select
and type over the selection. The character stands in the place of what was covered, the cursor
behind it, and the host shows no selection. -/
theorem typed_over_as_changed {shape : Shape} {next : LastingMode} {oneShot : Bool} {anchor : Nat}
    (h : s.Idle) (builtIn : s.keymap.BuiltIn) (mode : s.editor.mode = .visual shape next oneShot)
    (ha : s.editor.modes.anchor = some anchor) (le : anchor ≤ s.text.size) {c g i : Input}
    {x : Char} (hc : c.toKey = Key.plain 'c') (hg : g.toKey = Key.ctrl 'g')
    (hi : i.toKey = Key.plain x) (shown : Option Selection) :
    let afterChange := s.callAll [.input c, .input i]
    let afterTrade := s.callAll [.input g, .input i]
    afterChange = afterTrade ∧
      afterChange.editor.mode = .insert ∧ afterChange.editor.modes.anchor = none ∧
      (∃ r, s.editor.modes.covered? s.text s.cursor = some r ∧
        afterChange.text = (s.text.removeSpan r).insertClamped r.start x.toString ∧
        afterChange.cursor = r.start + 1) ∧
      s.shownAll shown [.input c, .input i] = none ∧
      s.shownAll shown [.input g, .input i] = none := by
  have visual : s.editor.mode.isVisual := by rw [mode]; rfl
  obtain ⟨select, endRule, inside, same⟩ := ModeState.handed_over mode ha le h.cursor
  obtain ⟨r, covered⟩ : ∃ r, s.editor.modes.covered? s.text s.cursor = some r :=
    ⟨_, ModeState.covered?_visual mode ha s.text s.cursor⟩
  have within : r.Within s.text.size := by
    obtain ⟨y, _, rfl⟩ := Option.map_eq_some_iff.1 covered
    exact y.span_within s.text
  -- both ways lead to the session where the span is gone, and then the character is put in
  obtain ⟨change, unshown⟩ := press_change h builtIn visual covered hc
  have idle : (s.changed r).Idle :=
    ⟨rfl, rfl, Text.start_le_size_operate within .change .character 1 none⟩
  obtain ⟨put, kept⟩ := press_put idle builtIn rfl hi
  have trade := press_handOver h builtIn visual hg
  have idle' : s.handedOver.Idle := ⟨rfl, rfl, inside⟩
  have select' : s.handedOver.editor.mode.isSelect := by
    rw [show s.handedOver.editor.mode = _ from select]
    rfl
  obtain ⟨typed, unshown'⟩ := press_over idle' builtIn select' rfl (same.trans covered) hi
  have changed : s.handedOver.changed r = s.changed r := by
    rw [Session.changed, show s.handedOver.editor.modes.endRule = _ from endRule]
    rfl
  have afterChange : s.callAll [.input c, .input i] = (s.changed r).put x := by
    rw [← put, ← change]
    rfl
  have afterTrade : s.callAll [.input g, .input i] = (s.changed r).put x := by
    rw [← changed, ← typed, ← trade]
    rfl
  rw [afterChange, afterTrade]
  refine ⟨rfl, rfl, rfl, ⟨r, covered, rfl, rfl⟩, ?_, ?_⟩
  · show Action.shownAfter (Action.shownAfter shown (s.press c).2) ((s.press c).1.press i).2 = none
    rw [change, kept, unshown]
  · show Action.shownAfter _ ((s.press g).1.press i).2 = none
    rw [trade, unshown']

theorem typed_over_as_changed_backwards :
    let s : Session :=
      { editor := { modes := { mode := .visual .block .insert true, anchor := some 3 } }
        keymap := Registry.standard.keymap, text := Text.ofString "one\ntwo", cursor := 1 }
    let c : Input := .key (Key.plain 'c')
    let g : Input := .key (Key.ctrl 'g')
    let x : Input := .text 'x'
    Settings.keymap {} = .ok s.keymap ∧ s.Idle ∧
      s.callAll [.input c, .input x] = s.callAll [.input g, .input x] ∧
      (s.callAll [.input g, .input x]).text = Text.ofString "oxtwo" ∧
      (s.callAll [.input g, .input x]).cursor = 2 := by
  intro s c g x
  have idle : s.Idle := ⟨rfl, rfl, by decide⟩
  have agree := typed_over_as_changed idle (Or.inl rfl) rfl rfl (by decide) (c := c) (g := g)
    (i := x) rfl rfl rfl none
  obtain ⟨same, _, _, ⟨r, covered, text, cursor⟩, _⟩ := agree
  obtain rfl : { start := 1, stop := 4 } = r := Option.some.inj covered
  rw [← same]
  exact ⟨rfl, idle, rfl, text.trans (by decide), cursor⟩

end Session

end ModalEditing
