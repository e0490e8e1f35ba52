import ModalEditing.Proofs.ControlState

/-! The text that a selection covers while Visual and Select trade places. Select leaves its far
end out, and Visual takes it in where selections are inclusive, so the far end moves by one
character with each trade, whichever of anchor and cursor it is. -/

namespace ModalEditing

theorem Selection.span_of_shape {s : Selection} (t : Text) (h : s.shape ≠ .line) :
    s.span t =
      { start := min (min s.anchor s.head) t.size
        stop :=
          if s.exclusive then min (max s.anchor s.head) t.size
          else min (min (max s.anchor s.head) t.size + 1) t.size } := by
  unfold span
  cases hs : s.shape with
  | line => exact absurd hs h
  | _ => rfl

theorem Selection.span_of_line {s : Selection} (t : Text) (exclusive : Bool) (h : s.shape = .line) :
    s.span t = { s with exclusive }.span t := by
  simp only [span, h]

namespace Turn

variable {t : Turn} {text : Text} {x : Selection}

theorem operator_of_visual (h : t.mode.isVisual) (o : Operator) :
    t.operator text o = t.operateOnSelection text o := by
  obtain ⟨shape, next, oneShot, mode⟩ := Mode.isVisual_iff.1 h
  rw [operator, mode]

theorem exists_selection (h : t.mode.hasSelection) : ∃ x, t.selection? = some x := by
  obtain ⟨shape, hs⟩ := Option.isSome_iff_exists.1 h
  exact ⟨_, Option.map_eq_some_iff.2 ⟨shape, hs, rfl⟩⟩

theorem operateOnSelection_of_selection (h : t.selection? = some x) (text : Text) (o : Operator) :
    let left : Turn :=
      { t with
        command := {}
        modes := t.modes.transition (if o = .change then .enterInsert else .exit)
        column := none }
    let count := max (t.command.totalCount.getD 1) 1
    t.operateOnSelection text o =
      ((left.emit (.operate o (x.span text) x.shape count t.command.register)).emit
        (.setSelection none)).moveTo (x.span text).start := by
  have same : ({ t with command := {} } : Turn).selection? = some x := h
  unfold operateOnSelection takeCounted
  simp only [same]
  rfl

end Turn

namespace ModeState

/-- The text that the selection ending at the cursor covers. -/
def covered? (s : ModeState) (t : Text) (cursor : Nat) : Option Span :=
  (s.selection? cursor).map fun x => x.span t

variable {s : ModeState} {t : Text} {shape : Shape} {next : LastingMode} {oneShot : Bool}
  {anchor cursor : Nat} {e : ModeEvent}

theorem covered?_select (mode : s.mode = .select shape next) (ha : s.anchor = some anchor)
    (t : Text) (cursor : Nat) :
    s.covered? t cursor =
      some (Selection.span { anchor, head := cursor, shape, exclusive := true } t) := by
  simp [covered?, selection?, mode, ha, Mode.shape?, Mode.isSelect]

theorem covered?_visual (mode : s.mode = .visual shape next oneShot) (ha : s.anchor = some anchor)
    (t : Text) (cursor : Nat) :
    s.covered? t cursor =
      some (Selection.span
        { anchor, head := cursor, shape, exclusive := s.endRule == .exclusive } t) := by
  simp [covered?, selection?, mode, ha, Mode.shape?, Mode.isSelect]

theorem widen_covers (mode : s.mode = .select shape next) (hs : shape ≠ .line)
    (ha : s.anchor = some anchor) (hc : cursor ≤ t.size) :
    (s.widen anchor t.size cursor).1.covered? t (s.widen anchor t.size cursor).2 =
      some (Selection.span { anchor, head := cursor, shape, exclusive := false } t) := by
  unfold widen
  split
  · next forward =>
    refine (covered?_select mode ha t _).trans (congrArg some ?_)
    rw [Selection.span_of_shape t hs, Selection.span_of_shape t hs]
    simp
    omega
  · next backward =>
    let wider := { s with anchor := some (min (anchor + 1) t.size) }
    refine (covered?_select (s := wider) mode rfl t cursor).trans (congrArg some ?_)
    rw [Selection.span_of_shape t hs, Selection.span_of_shape t hs]
    simp
    omega

theorem narrow_covers (mode : s.mode = .visual shape next oneShot) (hs : shape ≠ .line)
    (inclusive : s.endRule = .inclusive) (ha : s.anchor = some anchor) (le : anchor ≤ t.size)
    (hc : cursor ≤ t.size) (ne : anchor ≠ cursor) :
    (s.narrow anchor cursor).1.covered? t (s.narrow anchor cursor).2 =
      some (Selection.span { anchor, head := cursor, shape, exclusive := true } t) := by
  unfold narrow
  split
  · next forward =>
    refine (covered?_visual mode ha t _).trans (congrArg some ?_)
    rw [Selection.span_of_shape t hs, Selection.span_of_shape t hs]
    simp [inclusive]
    omega
  · next backward =>
    rw [if_pos (by omega)]
    let narrower := { s with anchor := some (anchor - 1) }
    refine (covered?_visual (s := narrower) mode rfl t cursor).trans (congrArg some ?_)
    rw [Selection.span_of_shape t hs, Selection.span_of_shape t hs]
    simp [narrower, inclusive]
    omega

theorem narrow_widen {size : Nat} (mode : Mode) (ha : s.anchor = some anchor) (le : anchor < size)
    (hc : cursor < size) :
    ∃ far, (s.widen anchor size cursor).1.anchor = some far ∧
      { (s.widen anchor size cursor).1 with mode }.narrow far (s.widen anchor size cursor).2 =
        ({ s with mode }, cursor) := by
  unfold widen
  split
  · next forward =>
    refine ⟨anchor, ha, ?_⟩
    simp only [narrow]
    rw [if_pos (by omega)]
    exact Prod.ext rfl (by simp only; omega)
  · next backward =>
    refine ⟨min (anchor + 1) size, rfl, ?_⟩
    simp only [narrow]
    rw [if_neg (by omega), if_pos (by omega), ha, Nat.min_eq_left le, Nat.succ_sub_one]

theorem switch_of_same (same : s.mode.after e = s.mode)
    (anchored : s.mode.hasSelection ∨ s.anchor = none) (t : Text) (cursor : Nat) :
    s.switch e t cursor = (s, cursor) := by
  have still : s.transition e = s := by
    simp only [transition, same]
    split
    · rfl
    · next unselected =>
      rw [← anchored.resolve_left unselected]
  unfold switch
  simp only [still]
  split
  · split
    · cases mode : s.mode <;> simp [Mode.isVisual, Mode.isSelect]
    · rfl
  · rfl

theorem switch_to_select (before : s.mode = .visual shape next oneShot)
    (after : s.mode.after e = .select shape next) (ha : s.anchor = some anchor) :
    s.switch e t cursor =
      if s.endRule = .inclusive ∧ shape ≠ .line then
        { s with mode := .select shape next }.widen anchor t.size cursor
      else ({ s with mode := .select shape next }, cursor) := by
  have moved : s.transition e = { s with mode := .select shape next } := by
    simp [transition, after, Mode.hasSelection, Mode.shape?]
  unfold switch
  simp only [moved, ha, before, Mode.shape?, Mode.isVisual, Mode.isSelect]
  rfl

theorem switch_to_visual (before : s.mode = .select shape next)
    (after : s.mode.after e = .visual shape next oneShot) (ha : s.anchor = some anchor) :
    s.switch e t cursor =
      if s.endRule = .inclusive ∧ shape ≠ .line then
        { s with mode := .visual shape next oneShot }.narrow anchor cursor
      else ({ s with mode := .visual shape next oneShot }, cursor) := by
  have moved : s.transition e = { s with mode := .visual shape next oneShot } := by
    simp [transition, after, Mode.hasSelection, Mode.shape?]
  unfold switch
  simp only [moved, ha, before, Mode.shape?, Mode.isVisual, Mode.isSelect]
  rfl

/-- Without a shift of the far end, both modes cover the same lines, and the same characters
where Visual leaves the far end out as Select does. -/
theorem span_unshifted (t : Text) (still : ¬ (s.endRule = .inclusive ∧ shape ≠ .line)) :
    Selection.span { anchor, head := cursor, shape, exclusive := true } t =
      Selection.span { anchor, head := cursor, shape, exclusive := s.endRule == .exclusive } t := by
  cases rule : s.endRule with
  | exclusive => rfl
  | inclusive =>
    have lines : shape = .line := by
      by_contra other
      exact still ⟨rule, other⟩
    exact Selection.span_of_line t _ lines

theorem switch_to_select_covers (before : s.mode = .visual shape next oneShot)
    (after : s.mode.after e = .select shape next) (ha : s.anchor = some anchor)
    (hc : cursor ≤ t.size) :
    (s.switch e t cursor).1.covered? t (s.switch e t cursor).2 = s.covered? t cursor := by
  rw [switch_to_select before after ha, covered?_visual before ha]
  split
  · next shifts =>
    have wider := widen_covers (s := { s with mode := .select shape next }) rfl shifts.2 ha hc
    exact wider.trans (by rw [shifts.1]; rfl)
  · next still =>
    have traded := covered?_select (s := { s with mode := .select shape next }) rfl ha t cursor
    exact traded.trans (congrArg some (span_unshifted t still))

theorem switch_to_visual_covers (before : s.mode = .select shape next)
    (after : s.mode.after e = .visual shape next oneShot) (ha : s.anchor = some anchor)
    (le : anchor ≤ t.size) (hc : cursor ≤ t.size)
    (h : shape = .line ∨ s.endRule = .exclusive ∨ anchor ≠ cursor) :
    (s.switch e t cursor).1.covered? t (s.switch e t cursor).2 = s.covered? t cursor := by
  rw [switch_to_visual before after ha, covered?_select before ha]
  split
  · next shifts =>
    have ne : anchor ≠ cursor := by
      rcases h with lines | exclusive | ne
      · exact absurd lines shifts.2
      · rw [shifts.1] at exclusive
        contradiction
      · exact ne
    exact narrow_covers rfl shifts.2 shifts.1 ha le hc ne
  · next still =>
    have traded :=
      covered?_visual (s := { s with mode := .visual shape next oneShot }) rfl ha t cursor
    exact traded.trans (congrArg some (span_unshifted t still).symm)

theorem ends_apart (mode : s.mode = .select shape next) (ha : s.anchor = some anchor)
    (filled : ∀ r ∈ s.covered? t cursor, r.isEmpty = false) :
    shape = .line ∨ anchor ≠ cursor := by
  rw [covered?_select mode ha] at filled
  by_cases lines : shape = .line
  · exact Or.inl lines
  · refine Or.inr ?_
    rintro rfl
    have nonempty := filled _ rfl
    rw [Selection.span_of_shape t lines] at nonempty
    simp [Span.isEmpty] at nonempty

theorem widen_endRule (s : ModeState) (anchor size cursor : Nat) :
    (s.widen anchor size cursor).1.endRule = s.endRule := by
  unfold widen
  split <;> rfl

theorem toggled_back (before : s.mode = .visual shape next oneShot) (ha : s.anchor = some anchor)
    (le : anchor < t.size) (hc : cursor < t.size) :
    (s.toggleSelectVisual t cursor).1.mode = .select shape next ∧
      (s.toggleSelectVisual t cursor).1.toggleSelectVisual t (s.toggleSelectVisual t cursor).2 =
        ({ s with mode := .visual shape next false }, cursor) := by
  have after : s.mode.after .toggleSelectVisual = .select shape next := by rw [before]; rfl
  have mode : (s.toggleSelectVisual t cursor).1.mode = .select shape next :=
    (switch_mode s .toggleSelectVisual t cursor).trans after
  refine ⟨mode, ?_⟩
  have back : (s.toggleSelectVisual t cursor).1.mode.after .toggleSelectVisual =
      .visual shape next false := by rw [mode]; rfl
  have there : s.toggleSelectVisual t cursor = _ := switch_to_select before after ha
  rw [there] at mode back ⊢
  split at mode
  · next shifts =>
    rw [if_pos shifts] at back ⊢
    obtain ⟨far, kept, narrowed⟩ := narrow_widen (s := { s with mode := .select shape next })
      (.visual shape next false) ha le hc
    refine (switch_to_visual mode back kept).trans ?_
    exact (if_pos (by rw [widen_endRule]; exact shifts)).trans narrowed
  · next still =>
    rw [if_neg still] at back ⊢
    exact (switch_to_visual mode back ha).trans (if_neg still)

theorem after_visual (before : s.mode = .visual shape next oneShot)
    (he : e = .toggleSelectVisual ∨ e = .singleVisualCommand ∨ e = .commandDone) :
    s.mode.after e = s.mode ∨ s.mode.after e = .select shape next := by
  rw [before]
  rcases he with rfl | rfl | rfl
  · exact Or.inr rfl
  · cases oneShot
    · exact Or.inl rfl
    · exact Or.inr rfl
  · cases oneShot
    · exact Or.inl rfl
    · exact Or.inr rfl

/-- A trade of Visual for Select, however it comes about, covers the same text after as before.
A trade back does too, unless it has to take in a character where none was selected. Two trades
in a row lead back to the same ends. -/
theorem trades_keep_covered {s : ModeState} {t : Text} {anchor cursor : Nat}
    (ha : s.anchor = some anchor) (le : anchor ≤ t.size) (hc : cursor ≤ t.size) :
    (s.mode.isVisual → ∀ step : Step,
      step = .toggleSelectVisual ∨ step = .singleVisualCommand ∨ step = .finishCommand →
      let r := s.perform t cursor step
      r.1.mode ≠ s.mode → r.1.mode.isSelect ∧ r.1.covered? t r.2 = s.covered? t cursor) ∧
    (s.mode.isSelect → ∀ step : Step,
      step = .toggleSelectVisual ∨ step = .singleVisualCommand →
      let r := s.perform t cursor step
      r.1.mode.isVisual ∧
        (s.mode.shape? = some .line ∨ s.endRule = .exclusive ∨
            (∀ x ∈ s.covered? t cursor, x.isEmpty = false) →
          r.1.covered? t r.2 = s.covered? t cursor)) ∧
    (∀ shape next oneShot, s.mode = .visual shape next oneShot →
      anchor < t.size → cursor < t.size →
      let r := s.toggleSelectVisual t cursor
      r.1.mode = .select shape next ∧
        r.1.toggleSelectVisual t r.2 = ({ s with mode := .visual shape next false }, cursor)) := by
  refine ⟨?_, ?_, fun _ _ _ before => toggled_back before ha⟩
  · intro visual step hstep
    obtain ⟨shape, next, oneShot, before⟩ := Mode.isVisual_iff.1 visual
    -- each of the steps is a switch, so one argument serves for all
    obtain ⟨e, he, performed⟩ : ∃ e : ModeEvent,
        (e = .toggleSelectVisual ∨ e = .singleVisualCommand ∨ e = .commandDone) ∧
          s.perform t cursor step = s.switch e t cursor := by
      rcases hstep with rfl | rfl | rfl
      · exact ⟨_, Or.inl rfl, rfl⟩
      · exact ⟨_, Or.inr (Or.inl rfl), rfl⟩
      · exact ⟨_, Or.inr (Or.inr rfl), rfl⟩
    rw [performed]
    intro r traded
    rw [switch_mode] at traded
    have after := (after_visual before he).resolve_left traded
    refine ⟨?_, switch_to_select_covers before after ha hc⟩
    rw [switch_mode, after]
    rfl
  · intro select step hstep
    obtain ⟨shape, next, before⟩ : ∃ shape next, s.mode = .select shape next := by
      cases mode : s.mode <;> simp_all [Mode.isSelect]
    obtain ⟨e, oneShot, after, performed⟩ : ∃ (e : ModeEvent) (oneShot : Bool),
        s.mode.after e = .visual shape next oneShot ∧
          s.perform t cursor step = s.switch e t cursor := by
      rw [before]
      rcases hstep with rfl | rfl
      · exact ⟨.toggleSelectVisual, false, rfl, rfl⟩
      · exact ⟨.singleVisualCommand, true, rfl, rfl⟩
    rw [performed]
    intro r
    refine ⟨?_, ?_⟩
    · rw [switch_mode, after]
      rfl
    · intro keeps
      refine switch_to_visual_covers before after ha le hc ?_
      rcases keeps with lines | exclusive | filled
      · exact Or.inl (by simpa [before, Mode.shape?] using lines)
      · exact Or.inr (Or.inl exclusive)
      · exact (ends_apart before ha filled).imp_right Or.inr

theorem trades_keep_covered_backwards :
    let s : ModeState := { mode := .visual .block .insert true, anchor := some 2 }
    let r := s.perform #['a', 'b', 'c'] 0 .finishCommand
    s.covered? #['a', 'b', 'c'] 0 = some { start := 0, stop := 3 } ∧
      r = ({ mode := .select .block .insert, anchor := some 3 }, 0) ∧
      r.1.covered? #['a', 'b', 'c'] r.2 = s.covered? #['a', 'b', 'c'] 0 := by
  intro s r
  have kept := trades_keep_covered (s := s) (t := #['a', 'b', 'c']) (show _ = some 2 from rfl)
    (by decide) (show 0 ≤ _ by decide)
  exact ⟨rfl, rfl, (kept.1 rfl .finishCommand (Or.inr (Or.inr rfl)) (by decide)).2⟩

end ModeState

end ModalEditing
