import ModalEditing.Proofs.SessionBounds

/-! Keys that wait for a mapping are typed in the end. Where no mapping has its keys among those
that are pressed, all of them go into the text in their order, wherever a flush cuts the waiting
short: the keys typed, followed by those that wait, are always the keys pressed so far. -/

namespace ModalEditing

namespace Text

variable {t : Text} {p : Nat}

theorem toList_insertAt (t : Text) (p : Nat) (s : String) :
    (t.insertAt p s).toList = t.toList.take p ++ s.toList ++ t.toList.drop p := by
  simp [insertAt, ofString, List.take_of_length_le]

theorem insertAt_empty (t : Text) (p : Nat) : t.insertAt p "" = t := by
  rw [← Array.toList_inj, toList_insertAt, String.toList_empty, List.append_nil,
    List.take_append_drop]

theorem insertAt_insertAt (h : p ≤ t.size) (s s' : String) :
    (t.insertAt p s).insertAt (p + s.length) s' = t.insertAt p (s ++ s') := by
  have first : (t.toList.take p ++ s.toList).length = p + s.length := by
    rw [List.length_append, List.length_take, Array.length_toList, Nat.min_eq_left h,
      String.length_toList]
  rw [← Array.toList_inj, toList_insertAt, toList_insertAt, ← first, List.take_left,
    List.drop_left, toList_insertAt, String.toList_append]
  simp only [List.append_assoc]

end Text

def Key.written (ks : List Key) : List Char := ks.filterMap Key.typed?

theorem Key.length_written {ks : List Key} (typed : ∀ k ∈ ks, k.typed?.isSome) :
    (written ks).length = ks.length :=
  List.filterMap_length_eq_length.2 typed

namespace Turn

def typeAll (t : Turn) (cs : List Char) : Turn := cs.foldl typeChar t

variable {t : Turn}

theorem typeAll_append (t : Turn) (cs cs' : List Char) :
    t.typeAll (cs ++ cs') = (t.typeAll cs).typeAll cs' := by
  simp [typeAll]

theorem typeAll_toControl (t : Turn) (cs : List Char) : (t.typeAll cs).toControl = t.toControl := by
  induction cs generalizing t with
  | nil => rfl
  | cons c cs ih => exact (ih (t.typeChar c)).trans (t.typeChar_toControl c)

theorem typeChar_of_insert (h : t.mode = .insert) (c : Char) :
    t.typeChar c = { t.emit (.insertText t.cursor c.toString) with cursor := t.cursor + 1 } := by
  rw [typeChar, if_neg (by simp [h])]

/-- From `t` to `t'` the characters have been put in at the cursor, by insertions alone. -/
structure Puts (text : Text) (cs : List Char) (t t' : Turn) : Prop where
  now : t'.now text = (t.now text).insertAt t.cursor (String.ofList cs)
  cursor : t'.cursor = t.cursor + cs.length
  actions : ∀ a ∈ t'.actions, a ∈ t.actions ∨ ∃ p s, a = .insertText p s

theorem typeAll_puts (text : Text) (h : t.mode = .insert) (hc : t.cursor ≤ (t.now text).size)
    (cs : List Char) : t.Puts text cs (t.typeAll cs) := by
  induction cs using List.reverseRecOn with
  | nil => exact ⟨(Text.insertAt_empty _ _).symm, rfl, fun _ => Or.inl⟩
  | append_singleton cs c ih =>
    have mode : (t.typeAll cs).mode = .insert := by rw [typeAll_toControl, h]
    have last : t.typeAll (cs ++ [c]) = (t.typeAll cs).typeChar c := typeAll_append t cs [c]
    rw [last, typeChar_of_insert mode]
    refine ⟨?_, ?_, ?_⟩
    · have size := Text.size_insertAt (String.ofList cs) hc
      have cursor : t.cursor + cs.length ≤ ((t.typeAll cs).now text).size := by
        rw [ih.now, size, String.length_ofList]
        omega
      calc ((t.typeAll cs).emit (.insertText (t.typeAll cs).cursor c.toString)).now text
          = ((t.typeAll cs).now text).insertClamped (t.cursor + cs.length) c.toString := by
            rw [now_emit, ih.cursor]; rfl
        _ = ((t.now text).insertAt t.cursor (String.ofList cs)).insertAt
              (t.cursor + (String.ofList cs).length) c.toString := by
            rw [Text.insertClamped, Nat.min_eq_left cursor, ih.now, String.length_ofList]
        _ = (t.now text).insertAt t.cursor (String.ofList (cs ++ [c])) := by
            rw [Text.insertAt_insertAt hc, String.ofList_append]
            rfl
    · simp [ih.cursor, Nat.add_assoc]
    · intro a ha
      rcases Array.mem_push.1 ha with before | rfl
      · exact ih.actions a before
      · exact Or.inr ⟨_, _, rfl⟩

theorem insertKey_of_typed {k : Key} {c : Char} (h : k.typed? = some c) :
    t.insertKey k = t.typeChar c := by
  unfold insertKey
  split
  · next code => simp [Key.typed?, Key.printable?, code] at h
  · next code => simp [Key.typed?, Key.printable?, code] at h
  · simp only [h]

end Turn

structure Keymap.Leaves (km : Keymap) (ks : List Key) : Prop where
  typed : ∀ k ∈ ks, k.typed?.isSome
  unmapped : ∀ m ∈ km.mappings, m.modes.meets Mode.insert.toModeSet → ¬ m.keys <:+: ks

theorem Keymap.Leaves.of_infix {km : Keymap} {ks ks' : List Key} (h : km.Leaves ks)
    (part : ks' <:+: ks) : km.Leaves ks' where
  typed k hk := h.typed k (part.subset hk)
  unmapped m hm meets inside := h.unmapped m hm meets (inside.trans part)

namespace Dispatch

variable {km : Keymap} {text : Text} {flush : Bool} {d d' : Dispatch} {t : Turn} {ks : List Key}

/-- Some of the keys have been typed from the turn `t` on, and the others wait or are to come. -/
structure InOrder (t : Turn) (ks : List Key) (d : Dispatch) : Prop where
  remap : ∀ s ∈ d.waiting ++ d.queue, s.remap = true
  order : ∃ done, done ++ (d.waiting ++ d.queue).map Stroke.key = ks ∧
    d.toTurn = t.typeAll (Key.written done)

theorem InOrder.toControl (h : d.InOrder t ks) : d.toControl = t.toControl := by
  obtain ⟨done, _, turn⟩ := h.order
  rw [turn, Turn.typeAll_toControl]

theorem InOrder.accept (h : d.InOrder t ks) : d.accept.InOrder t ks where
  remap := by
    rw [accept_keys]
    exact h.remap
  order := by
    rw [accept_keys, accept_toTurn]
    exact h.order

theorem InOrder.unmapped (h : d.InOrder t ks) (typed : ∀ k ∈ ks, k.typed?.isSome)
    (insert : t.mode = .insert) (text : Text) : (d.unmapped text).InOrder t ks := by
  have typing : d.mode.isTyping := by
    rw [h.toControl, insert]
    rfl
  unfold Dispatch.unmapped
  split
  · exact h
  · next first rest hw =>
    obtain ⟨remap, done, order, turn⟩ := h
    rw [hw] at remap order
    rw [if_pos typing]
    obtain ⟨c, hc⟩ := Option.isSome_iff_exists.1 (typed first.key (by simp [← order]))
    refine ⟨?_, done ++ [first.key], ?_, ?_⟩
    · intro s hs
      exact remap s (List.mem_cons_of_mem first hs)
    · simpa using order
    · have written : Key.written (done ++ [first.key]) = Key.written done ++ [c] := by
        simp [Key.written, hc]
      rw [written, Turn.typeAll_append, ← turn]
      exact Turn.insertKey_of_typed hc

theorem step_inOrder (free : km.Leaves ks) (insert : t.mode = .insert) (h : d.InOrder t ks)
    (hs : Step km text flush d d') : d'.InOrder t ks := by
  have mode : d.mode = .insert := by
    rw [Control.mode, h.toControl]
    exact insert
  cases hs with
  | caught hq hc =>
    rename_i s queue
    have uncaught : { d with queue }.intercept? s.key = none :=
      if_pos (show d.mode.isTyping by rw [mode]; rfl)
    rw [uncaught] at hc
    contradiction
  | waits hl ha => exact h.accept
  | mapped hl ha =>
    obtain ⟨mem, meets⟩ := mapping_of_answer ha
    obtain ⟨done, order, _⟩ := h.accept.order
    rw [mode] at meets
    rw [List.map_append] at order
    have among : d.accept.waiting.map Stroke.key <:+: ks :=
      ⟨done, _, by rw [← order, List.append_assoc]⟩
    exact absurd ((longest_of_answer ha).isPrefix.isInfix.trans among) (free.unmapped _ mem meets)
  | unmapped hl ha => exact h.accept.unmapped free.typed insert text

theorem run_inOrder (text : Text) (flush : Bool) (free : km.Leaves ks) (insert : t.mode = .insert)
    (h : d.InOrder t ks) : (d.run km text flush).InOrder t ks :=
  run_invariant km text flush (fun _ _ kept step => step_inOrder free insert kept step) h

end Dispatch

def Call.pressed (calls : List Call) : List Key := calls.filterMap Call.key?

theorem Call.pressed_cons (c : Call) (calls : List Call) :
    pressed (c :: calls) = c.key?.toList ++ pressed calls := by
  cases c <;> rfl

theorem Call.pressed_append (calls calls' : List Call) :
    pressed (calls ++ calls') = pressed calls ++ pressed calls' := by
  simp [pressed]

namespace Session

variable {s s' s'' : Session} {ks ks' : List Key}

structure Ready (s : Session) (ks : List Key) : Prop where
  insert : s.editor.mode = .insert
  remap : ∀ x ∈ s.editor.waiting, x.remap = true
  free : s.keymap.Leaves (s.editor.waitingKeys ++ ks)

/-- From `s` to `s'` the keys have come. Of them and of those that had been waiting some have been
typed, and the others wait. -/
structure Typed (s : Session) (ks : List Key) (s' : Session) : Prop where
  keymap : s'.keymap = s.keymap
  control : s'.editor.toControl = s.editor.toControl
  remap : ∀ x ∈ s'.editor.waiting, x.remap = true
  order : ∃ done, done ++ s'.editor.waitingKeys = s.editor.waitingKeys ++ ks ∧
    s'.text = s.text.insertAt (min s.cursor s.text.size) (String.ofList (Key.written done)) ∧
    min s'.cursor s'.text.size = min s.cursor s.text.size + (Key.written done).length

theorem Typed.refl (remap : ∀ x ∈ s.editor.waiting, x.remap = true) : s.Typed [] s where
  keymap := rfl
  control := rfl
  remap := remap
  order := ⟨[], (List.append_nil _).symm, (Text.insertAt_empty _ _).symm, rfl⟩

theorem Typed.trans (h : s.Typed ks s') (h' : s'.Typed ks' s'') : s.Typed (ks ++ ks') s'' where
  keymap := h'.keymap.trans h.keymap
  control := h'.control.trans h.control
  remap := h'.remap
  order := by
    obtain ⟨done, order, text, cursor⟩ := h.order
    obtain ⟨done', order', text', cursor'⟩ := h'.order
    have written : Key.written (done ++ done') = Key.written done ++ Key.written done' :=
      List.filterMap_append
    refine ⟨done ++ done', ?_, ?_, ?_⟩
    · rw [List.append_assoc, order', ← List.append_assoc, order, List.append_assoc]
    · rw [text', cursor, text, ← String.length_ofList,
        Text.insertAt_insertAt (Nat.min_le_right _ _), ← String.ofList_append, written]
    · rw [cursor', cursor, written, List.length_append, Nat.add_assoc]

theorem Ready.next (h : s.Ready (ks ++ ks')) (typed : s.Typed ks s') : s'.Ready ks' where
  insert := (congrArg Control.mode typed.control).trans h.insert
  remap := typed.remap
  free := by
    obtain ⟨done, order, _⟩ := typed.order
    rw [typed.keymap]
    refine h.free.of_infix (List.IsSuffix.isInfix ⟨done, ?_⟩)
    rw [← List.append_assoc, order, List.append_assoc]

theorem Ready.first (h : s.Ready (ks ++ ks')) : s.Ready ks where
  insert := h.insert
  remap := h.remap
  free := by
    refine h.free.of_infix (List.IsPrefix.isInfix ⟨ks', ?_⟩)
    rw [List.append_assoc]

theorem turn_typed (queue : List Stroke) (h : s.Ready (queue.map Stroke.key))
    (remap : ∀ x ∈ queue, x.remap = true) (flush : Bool) :
    let r := ((s.editor.begin s.text s.cursor queue).run s.keymap s.text flush).response
    (∀ a ∈ r.actions, ∃ p x, a = .insertText p x) ∧ (flush → r.editor.waiting = []) ∧
      r.cursor ≤ (s.accept r).text.size ∧ s.Typed (queue.map Stroke.key) (s.accept r) := by
  let start := s.editor.begin s.text s.cursor queue
  have inOrder : start.InOrder start.toTurn (s.editor.waitingKeys ++ queue.map Stroke.key) := by
    refine ⟨?_, [], List.map_append, rfl⟩
    intro x hx
    exact (List.mem_append.1 hx).elim (h.remap x) (remap x)
  have ran := Dispatch.run_inOrder s.text flush h.free h.insert inOrder
  have ended := Dispatch.next?_eq_none_iff.1 (Dispatch.next?_run s.keymap s.text flush start)
  intro r
  obtain ⟨done, order, turn⟩ := ran.order
  rw [ended.1, List.append_nil] at order
  have inside : start.cursor ≤ s.text.size := Nat.min_le_right _ _
  have puts := Turn.typeAll_puts s.text h.insert inside (Key.written done)
  rw [← turn] at puts
  have cursor : r.cursor = start.cursor + (Key.written done).length := puts.cursor
  have reached : r.cursor ≤ (s.accept r).text.size := by
    have size : (s.accept r).text.size = s.text.size + (String.ofList (Key.written done)).length :=
      (congrArg Array.size puts.now).trans (Text.size_insertAt _ inside)
    rw [cursor, size, String.length_ofList]
    exact Nat.add_le_add_right inside _
  refine ⟨?_, ended.2, reached, rfl, ran.toControl, ?_, done, order, puts.now, ?_⟩
  · intro a ha
    exact (puts.actions a ha).resolve_left (by simp [start, Editor.begin])
  · intro x hx
    exact ran.remap x (List.mem_append_left _ hx)
  · exact (Nat.min_eq_left reached).trans cursor

theorem call_typed {c : Call} (h : s.Ready c.key?.toList) (going : c ≠ .abort) :
    (∀ a ∈ (s.call c).2, ∃ p x, a = .insertText p x) ∧
      s.Typed c.key?.toList (s.call c).1 := by
  cases c with
  | input i =>
    have turn := turn_typed [{ key := i.toKey }] h (by simp) false
    exact ⟨turn.1, turn.2.2.2⟩
  | flush =>
    have turn := turn_typed [] h (by simp) true
    exact ⟨turn.1, turn.2.2.2⟩
  | abort => contradiction

theorem callAll_typed {calls : List Call} (h : s.Ready (Call.pressed calls))
    (going : .abort ∉ calls) : s.Typed (Call.pressed calls) (s.callAll calls) := by
  induction calls generalizing s with
  | nil => exact Typed.refl h.remap
  | cons c calls ih =>
    rw [List.mem_cons, not_or] at going
    rw [Call.pressed_cons] at h ⊢
    have first := (call_typed h.first (Ne.symm going.1)).2
    exact first.trans (ih (h.next first) going.2)

theorem insertions_of_prefix {calls before : List Call} {c : Call}
    (h : s.Ready (Call.pressed calls)) (going : .abort ∉ calls)
    (part : before ++ [c] <+: calls) :
    ∀ a ∈ ((s.callAll before).call c).2, ∃ p x, a = .insertText p x := by
  obtain ⟨rest, rfl⟩ := part
  rw [Call.pressed_append, Call.pressed_append] at h
  simp only [List.mem_append, List.mem_singleton, not_or] at going
  obtain ⟨⟨ahead, here⟩, _⟩ := going
  have typed := callAll_typed h.first.first ahead
  have ready : (s.callAll before).Ready c.key?.toList := by
    rw [← List.append_nil c.key?.toList]
    exact Call.pressed_cons c [] ▸ h.first.next typed
  exact (call_typed ready (Ne.symm here)).1

theorem Typed.all_typed (h : s.Typed ks s') (idle : s.editor.waiting = [])
    (idle' : s'.editor.waiting = []) :
    s'.text = s.text.insertAt (min s.cursor s.text.size) (String.ofList (Key.written ks)) ∧
      min s'.cursor s'.text.size = min s.cursor s.text.size + (Key.written ks).length ∧
      s'.editor = s.editor := by
  obtain ⟨done, order, text, cursor⟩ := h.order
  have none_waits : s.editor.waitingKeys = [] := congrArg (List.map Stroke.key) idle
  have none_waits' : s'.editor.waitingKeys = [] := congrArg (List.map Stroke.key) idle'
  rw [none_waits, none_waits', List.append_nil, List.nil_append] at order
  subst order
  refine ⟨text, cursor, ?_⟩
  calc s'.editor = { toControl := s'.editor.toControl, waiting := s'.editor.waiting } := rfl
    _ = s.editor := by rw [h.control, idle', ← idle]

/-- Keys that wait for a mapping of Insert mode in vain are all typed, in their order and once
each, wherever flushes come between them and with one at the end. Nothing but insertions is asked
of the host, and the editor is left as it was. -/
theorem held_keys_typed {calls : List Call} (insert : s.editor.mode = .insert)
    (idle : s.editor.waiting = []) (going : .abort ∉ calls)
    (free : s.keymap.Leaves (Call.pressed calls)) :
    let last := s.callAll (calls ++ [.flush])
    let p := min s.cursor s.text.size
    (∀ before c, before ++ [c] <+: calls ++ [.flush] →
      ∀ a ∈ ((s.callAll before).call c).2, ∃ q x, a = .insertText q x) ∧
    last.text = s.text.insertAt p (String.ofList (Key.written (Call.pressed calls))) ∧
    last.cursor = p + (Call.pressed calls).length ∧
    last.editor = s.editor := by
  have same : Call.pressed (calls ++ [.flush]) = Call.pressed calls ++ [] :=
    Call.pressed_append calls [.flush]
  have ready : s.Ready (Call.pressed calls ++ []) := by
    refine ⟨insert, by simp [idle], ?_⟩
    rw [Editor.waitingKeys, idle, List.append_nil]
    exact free
  have typed := callAll_typed ready.first going
  obtain ⟨_, flushed, reached, last_typed⟩ := turn_typed [] (ready.next typed) (by simp) true
  have ended : s.callAll (calls ++ [.flush]) = ((s.callAll calls).call .flush).1 := by
    simp [callAll]
  obtain ⟨text, cursor, editor⟩ := (typed.trans last_typed).all_typed idle (flushed rfl)
  intro last p
  refine ⟨fun before c => insertions_of_prefix (same ▸ ready) (by simp [going]), ?_⟩
  rw [show last = _ from ended]
  rw [List.map_nil, List.append_nil] at text cursor
  refine ⟨text, ?_, editor⟩
  rw [← Key.length_written free.typed, ← cursor]
  exact (Nat.min_eq_left reached).symm

theorem held_keys_typed_around_jj :
    let m : Mapping :=
      { modes := Mode.insert.toModeSet, keys := Key.typing "jj", target := .keys [.esc]
        remap := true, owner := none, keys_ne_nil := by decide }
    let s : Session :=
      { editor := .starting .insert .inclusive, keymap := .ofMappings [m]
        text := Text.ofString "one", cursor := 1 }
    let j : Call := .input (.key (.plain 'j'))
    let calls := [j, .flush, .input (.text 'a'), j, .input (.key { code := .enter }), j]
    let last := s.callAll (calls ++ [.flush])
    (s.callAll [j]).editor.waitingKeys = [.plain 'j'] ∧
      last.text = Text.ofString "ojaj\njne" ∧ last.cursor = 6 ∧ last.editor = s.editor := by
  intro m s j calls last
  have going : .abort ∉ calls := by decide
  have free : s.keymap.Leaves (Call.pressed calls) := ⟨by decide, by decide⟩
  obtain ⟨_, text, cursor, editor⟩ := held_keys_typed (s := s) rfl rfl going free
  refine ⟨by cbv, text.trans (by decide), cursor, editor⟩

end Session

end ModalEditing
