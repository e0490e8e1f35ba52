import ModalEditing.Proofs.IndentedLines
import ModalEditing.TextObject.IndentBlock

/-! Blocks of indented lines. A block reaches to the nearest lines on both sides that are
indented less than the line of the cursor; between them all lines with text are indented as far.
So two blocks are apart or one lies within the other, and all lines of the least indentation in a
block give the same block. -/

namespace ModalEditing

namespace IndentBlock

open Text

variable {t : Text} {b : IndentBlock} {p q limit cursor : Nat} {r s : Span}

/-- The line at `s` is the first one with text from `p` on, or is the limit. -/
structure SkipsTo (t : Text) (limit p s : Nat) : Prop where
  starts : t.StartsLine s
  ge : p ≤ s
  le : s ≤ limit
  stops : s = limit ∨ t.HasText s
  blank : ∀ q, t.StartsLine q → p ≤ q → q < s → ¬ t.HasText q

theorem skipBlankLines_skipsTo (hp : t.StartsLine p) (hl : t.StartsLine limit) (le : p ≤ limit) :
    SkipsTo t limit p (skipBlankLines t limit p) := by
  have inside := hl.le_size
  fun_induction skipBlankLines t limit p with
  | case1 p before blank ih =>
    rw [indent?_eq_none_iff] at blank
    have stop := lt_lineStop (t := t) (p := p) (by omega)
    have short := hl.lineStop_le (p := p) (by omega)
    have rest := ih (hl.startsLine_lineStop (by omega)) short
    refine ⟨rest.starts, Nat.le_trans (Nat.le_of_lt stop) rest.ge, rest.le, rest.stops, ?_⟩
    intro q hq ge lt
    rcases Nat.lt_or_eq_of_le ge with later | rfl
    · exact rest.blank q hq (hq.lineStop_le later) lt
    · exact blank
  | case2 p before other =>
    rw [indent?_eq_none_iff, Classical.not_not] at other
    exact ⟨hp, Nat.le_refl p, le, Or.inr other, fun q _ ge lt => by omega⟩
  | case3 p past =>
    have same : p = limit := by omega
    exact ⟨hp, Nat.le_refl p, le, Or.inl same, fun q _ ge lt => by omega⟩

theorem SkipsTo.unique {limit' s s' : Nat} (h : SkipsTo t limit p s) (h' : SkipsTo t limit' p s')
    (text : t.HasText limit) (text' : t.HasText limit') : s = s' := by
  have own : t.HasText s := h.stops.elim (fun same => same ▸ text) id
  have own' : t.HasText s' := h'.stops.elim (fun same => same ▸ text') id
  rcases Nat.lt_trichotomy s s' with lt | same | gt
  · exact absurd own (h'.blank s h.starts h.ge lt)
  · exact same
  · exact absurd own' (h.blank s' h'.starts h'.ge gt)

/-- From each column the same indentation is read, counted on the way back or not. -/
theorem indentOf_eq (t : Text) (cursor : Nat) :
    let c := min cursor t.size
    indentOf t (t.startAround c) c = t.blanksFrom (t.lineStart cursor) := by
  intro c
  have inside : c ≤ t.size := Nat.min_le_right cursor t.size
  have around : t.startAround c = t.startBelow c 0 := by rw [startAround, Nat.min_eq_left inside]
  have line : (t.startBelow c 0).offset = t.lineStart cursor := rfl
  have counted := leadingBlanks_startBelow inside 0
  simp only [line] at counted
  rw [indentOf, around, counted, line]
  split
  · rfl
  · rw [Nat.zero_add, if_neg (Nat.lt_irrefl _)]

theorem start_eq (b : IndentBlock) (t : Text) (cursor : Nat) :
    (b.span t cursor).start =
      match t.findAbove? (· < t.blanksFrom (t.lineStart cursor)) (t.lineStart cursor) with
      | none => 0
      | some bound =>
        if b.above then bound else skipBlankLines t (t.lineStart cursor) (t.lineStop bound) := by
  rw [← indentOf_eq, ← lineStart_min]
  rfl

theorem stop_eq (b : IndentBlock) (t : Text) (cursor : Nat) :
    (b.span t cursor).stop =
      match (t.lineAfter? (t.lineStart cursor)).bind
        (t.findFrom? (· < t.blanksFrom (t.lineStart cursor))) with
      | none => t.size
      | some bound => if b.below then t.lineStop bound else bound := by
  rw [← indentOf_eq, ← lineStart_min]
  rfl

theorem span_start (b : IndentBlock) (t : Text) (cursor : Nat) :
    let line := t.lineStart cursor
    let less := fun w => decide (w < t.blanksFrom line)
    ((∀ q, t.FittingLine less q → ¬ q < line) ∧ (b.span t cursor).start = 0) ∨
      ∃ bound, t.NearestAbove less line bound ∧
        (b.span t cursor).start =
          if b.above then bound else skipBlankLines t line (t.lineStop bound) := by
  have found := findAbove?_spec t (· < t.blanksFrom (t.lineStart cursor)) (t.lineStart cursor)
  have start := b.start_eq t cursor
  cases here : t.findAbove? (· < t.blanksFrom (t.lineStart cursor)) (t.lineStart cursor) with
  | none =>
    rw [here] at found start
    exact Or.inl ⟨found, start⟩
  | some bound =>
    rw [here] at found start
    exact Or.inr ⟨bound, found, start⟩

theorem span_stop (b : IndentBlock) (t : Text) (cursor : Nat) :
    let line := t.lineStart cursor
    let less := fun w => decide (w < t.blanksFrom line)
    ((∀ q, t.FittingLine less q → ¬ line < q) ∧ (b.span t cursor).stop = t.size) ∨
      ∃ bound, t.NearestBelow less line bound ∧
        (b.span t cursor).stop = if b.below then t.lineStop bound else bound := by
  have found := findBelow_spec t (· < t.blanksFrom (t.lineStart cursor)) (t.lineStart cursor)
  have stop := b.stop_eq t cursor
  cases here : (t.lineAfter? (t.lineStart cursor)).bind
    (t.findFrom? (· < t.blanksFrom (t.lineStart cursor))) with
  | none =>
    rw [here] at found stop
    exact Or.inl ⟨found, stop⟩
  | some bound =>
    rw [here] at found stop
    exact Or.inr ⟨bound, found, stop⟩

/-- The lines in the block of the line at `p`, told by the lines that bound them. -/
structure Extent (t : Text) (p : Nat) (r : Span) : Prop where
  starts : t.StartsLine r.start
  start_le : r.start ≤ p
  start : ((∀ q, t.FittingLine (· < t.blanksFrom p) q → ¬ q < p) ∧ r.start = 0) ∨
    ∃ bound, t.NearestAbove (· < t.blanksFrom p) p bound ∧ bound < r.start ∧
      (r.start = p ∨ t.HasText r.start) ∧
      ∀ q, t.StartsLine q → bound < q → q < r.start → ¬ t.HasText q
  stop : ((∀ q, t.FittingLine (· < t.blanksFrom p) q → ¬ p < q) ∧ r.stop = t.size) ∨
    t.NearestBelow (· < t.blanksFrom p) p r.stop

theorem inner_extent (t : Text) (cursor : Nat) :
    Extent t (t.lineStart cursor) (inner.span t cursor) := by
  have line := lineStart_startsLine t cursor
  have stop := inner.span_stop t cursor
  rcases inner.span_start t cursor with ⟨free, start⟩ | ⟨bound, above, start⟩
  · refine ⟨?_, ?_, Or.inl ⟨free, start⟩, ?_⟩
    · rw [start]
      exact startsLine_zero t
    · rw [start]
      exact Nat.zero_le _
    · rcases stop with free | ⟨bound, below, stop⟩
      · exact Or.inl free
      · exact Or.inr (stop ▸ below)
  · have past := lt_lineStop above.line.lt_size
    have skips := skipBlankLines_skipsTo (line.startsLine_lineStop above.above) line
      (line.lineStop_le above.above)
    rw [inner, if_neg Bool.false_ne_true, ← inner] at start
    rw [← start] at skips
    refine ⟨skips.starts, skips.le, Or.inr ⟨bound, above, ?_, skips.stops, ?_⟩, ?_⟩
    · exact Nat.lt_of_lt_of_le past skips.ge
    · exact fun q hq after before => skips.blank q hq (hq.lineStop_le after) before
    · rcases stop with free | ⟨bound, below, stop⟩
      · exact Or.inl free
      · exact Or.inr (stop ▸ below)

namespace Extent

theorem stop_le_size (h : Extent t p r) : r.stop ≤ t.size := by
  rcases h.stop with ⟨_, ends⟩ | below
  · exact Nat.le_of_eq ends
  · exact Nat.le_of_lt below.line.lt_size

theorem stop_startsLine (h : Extent t p r) : r.stop = t.size ∨ t.StartsLine r.stop := by
  rcases h.stop with ⟨_, ends⟩ | below
  · exact Or.inl ends
  · exact Or.inr below.line.starts

theorem lt_stop (h : Extent t p r) (text : t.HasText p) : p < r.stop := by
  rcases h.stop with ⟨_, ends⟩ | below
  · rw [ends]
    exact text.lt_size
  · exact below.below

theorem le_stop (h : Extent t (t.lineStart q) r) (hq : q ≤ t.size) : q ≤ r.stop := by
  rcases h.stop with ⟨_, ends⟩ | below
  · exact ends ▸ hq
  · exact Nat.le_trans (le_lineStop_lineStart hq) (below.line.starts.lineStop_le below.below)

theorem outside (h : Extent t p r) (hq : t.FittingLine (· < t.blanksFrom p) q) :
    q < r.start ∧ q < p ∨ r.stop ≤ q ∧ p < q := by
  rcases Nat.lt_trichotomy q p with above | rfl | below
  · refine Or.inl ⟨?_, above⟩
    rcases h.start with ⟨free, _⟩ | ⟨bound, nearest, before, _⟩
    · exact absurd above (free q hq)
    · exact Nat.lt_of_le_of_lt (nearest.nearest q hq above) before
  · exact absurd (of_decide_eq_true hq.fits) (Nat.lt_irrefl _)
  · refine Or.inr ⟨?_, below⟩
    rcases h.stop with ⟨free, _⟩ | nearest
    · exact absurd below (free q hq)
    · exact nearest.nearest q hq below

theorem le_blanksFrom (h : Extent t p r) (starts : t.StartsLine q) (text : t.HasText q)
    (ge : r.start ≤ q) (lt : q < r.stop) : t.blanksFrom p ≤ t.blanksFrom q := by
  refine Nat.le_of_not_lt fun less => ?_
  rcases h.outside ⟨starts, text, decide_eq_true less⟩ with ⟨above, _⟩ | ⟨below, _⟩ <;> omega

theorem start_hasText_of_lt (h : Extent t p r) (text : t.HasText p) (lt : q < r.start) :
    t.HasText r.start := by
  rcases h.start with ⟨_, zero⟩ | ⟨bound, _, _, first | own, _⟩
  · omega
  · exact first ▸ text
  · exact own

theorem covers_of_inside (hr : Extent t p r) (hs : Extent t q s) (text : t.HasText q)
    (deeper : t.blanksFrom p ≤ t.blanksFrom q) (ge : r.start ≤ q) (lt : q < r.stop) :
    r.start ≤ s.start ∧ s.stop ≤ r.stop := by
  constructor
  · rcases hr.start with ⟨_, zero⟩ | ⟨bound, above, before, _, blank⟩
    · omega
    · have shallow := above.line.mono deeper
      rcases hs.outside shallow with ⟨past, _⟩ | ⟨_, after⟩
      · -- after the line that bounds the outer block there are blank lines up to its start
        refine Nat.le_of_not_lt fun early => blank s.start hs.starts past early ?_
        exact hs.start_hasText_of_lt text past
      · omega
  · rcases hr.stop with ⟨_, ends⟩ | below
    · exact ends ▸ hs.stop_le_size
    · rcases hs.outside (below.line.mono deeper) with ⟨_, before⟩ | ⟨le, _⟩
      · omega
      · exact le

theorem apart_of_outside (hr : Extent t p r) (hs : Extent t q s) (starts : t.StartsLine q)
    (text : t.HasText q) (deeper : t.blanksFrom p ≤ t.blanksFrom q)
    (out : ¬ (r.start ≤ q ∧ q < r.stop)) : r.stop ≤ s.start ∨ s.stop ≤ r.start := by
  rcases Nat.lt_or_ge q r.start with above | ge
  · right
    rcases hr.start with ⟨_, zero⟩ | ⟨bound, bounds, before, _, blank⟩
    · omega
    · have le : q ≤ bound := Nat.le_of_not_lt fun lt => blank q starts lt above text
      rcases hs.outside (bounds.line.mono deeper) with ⟨_, lt⟩ | ⟨stop, _⟩ <;> omega
  · left
    rcases hr.stop with ⟨_, ends⟩ | below
    · exact absurd ⟨ge, ends ▸ text.lt_size⟩ out
    · rcases hs.outside (below.line.mono deeper) with ⟨past, _⟩ | ⟨_, lt⟩ <;> omega

theorem covers_or_apart (hr : Extent t p r) (hs : Extent t q s) (starts : t.StartsLine q)
    (text : t.HasText q) (deeper : t.blanksFrom p ≤ t.blanksFrom q) :
    r.covers s ∨ r.stop ≤ s.start ∨ s.stop ≤ r.start := by
  by_cases inside : r.start ≤ q ∧ q < r.stop
  · have within := hr.covers_of_inside hs text deeper inside.1 inside.2
    exact Or.inl (by simp [Span.covers, within])
  · exact Or.inr (hr.apart_of_outside hs starts text deeper inside)

end Extent

/-- Two lines with text, indented alike, have the same blocks if all lines that are indented less
lie above both of them or below both. -/
theorem span_congr (b : IndentBlock) {p q : Nat} (text : t.HasText (t.lineStart p))
    (text' : t.HasText (t.lineStart q))
    (same : t.blanksFrom (t.lineStart p) = t.blanksFrom (t.lineStart q))
    (beside : ∀ r, t.FittingLine (· < t.blanksFrom (t.lineStart p)) r →
      r < t.lineStart p ∧ r < t.lineStart q ∨ t.lineStart p < r ∧ t.lineStart q < r) :
    b.span t p = b.span t q := by
  have above : t.findAbove? (· < t.blanksFrom (t.lineStart p)) (t.lineStart p) =
      t.findAbove? (· < t.blanksFrom (t.lineStart p)) (t.lineStart q) := by
    refine findAbove?_congr fun r hr => ?_
    have := beside r hr
    omega
  have below : (t.lineAfter? (t.lineStart p)).bind
        (t.findFrom? (· < t.blanksFrom (t.lineStart p))) =
      (t.lineAfter? (t.lineStart q)).bind
        (t.findFrom? (· < t.blanksFrom (t.lineStart p))) := by
    refine findBelow_congr fun r hr => ?_
    have := beside r hr
    omega
  have skipped (bound : Nat)
      (found : t.findAbove? (· < t.blanksFrom (t.lineStart p)) (t.lineStart q) = some bound) :
      skipBlankLines t (t.lineStart p) (t.lineStop bound) =
        skipBlankLines t (t.lineStart q) (t.lineStop bound) := by
    have bounds' := findAbove?_eq_some_iff.1 found
    have bounds := findAbove?_eq_some_iff.1 (above.trans found)
    have skips {p' : Nat} (lt : bound < t.lineStart p') :=
      skipBlankLines_skipsTo ((lineStart_startsLine t p').startsLine_lineStop lt)
        (lineStart_startsLine t p') ((lineStart_startsLine t p').lineStop_le lt)
    exact (skips bounds.above).unique (skips bounds'.above) text text'
  have start : (b.span t p).start = (b.span t q).start := by
    rw [start_eq, start_eq, ← same, above]
    cases found : t.findAbove? (· < t.blanksFrom (t.lineStart p)) (t.lineStart q) with
    | none => rfl
    | some bound => simp only [skipped bound found]
  have stop : (b.span t p).stop = (b.span t q).stop := by rw [stop_eq, stop_eq, ← same, below]
  calc b.span t p
    _ = { start := (b.span t p).start, stop := (b.span t p).stop, lineWise := true } := rfl
    _ = { start := (b.span t q).start, stop := (b.span t q).stop, lineWise := true } := by
        rw [start, stop]
    _ = b.span t q := rfl

theorem withBoth_stop (t : Text) (cursor : Nat) :
    (withBoth.span t cursor).stop = t.lineStop (inner.span t cursor).stop := by
  rcases withBoth.span_stop t cursor with ⟨free, ends⟩ | ⟨bound, below, stop⟩
  · rcases inner.span_stop t cursor with ⟨_, ends'⟩ | ⟨bound, below, _⟩
    · rw [ends, ends', lineStop_size]
    · exact absurd below.below (free bound below.line)
  · rcases inner.span_stop t cursor with ⟨free, _⟩ | ⟨bound', below', stop'⟩
    · exact absurd below.below (free bound below.line)
    · have inner_stop : (inner.span t cursor).stop = bound' := stop'
      rw [inner_stop, below'.unique below]
      exact stop

/-- What the blocks around a cursor are, told by the indentation `m` of its line alone. -/
theorem span_exact (t : Text) (cursor : Nat) :
    let c := min cursor t.size
    let line := t.lineStart c
    let m := indentOf t (t.startAround c) c
    let r := inner.span t cursor
    let above := withAbove.span t cursor
    let both := withBoth.span t cursor
    m = t.blanksFrom line ∧
      (r.lineWise ∧ above.lineWise ∧ both.lineWise) ∧
      (r.start ≤ c ∧ c ≤ r.stop ∧ r.stop ≤ t.size) ∧
      (t.StartsLine r.start ∧ (r.stop = t.size ∨ t.StartsLine r.stop)) ∧
      (∀ q, t.StartsLine q → t.HasText q → r.start ≤ q → q < r.stop → m ≤ t.blanksFrom q) ∧
      (r.stop = t.size ↔ ∀ q, t.FittingLine (· < m) q → ¬ line < q) ∧
      (r.stop ≠ t.size → t.NearestBelow (· < m) line r.stop) ∧
      ((∀ q, t.FittingLine (· < m) q → ¬ q < line) → r.start = 0 ∧ above.start = 0) ∧
      (∀ b, t.NearestAbove (· < m) line b →
        b < r.start ∧ r.start ≤ line ∧ (r.start = line ∨ t.HasText r.start) ∧
        (∀ q, t.StartsLine q → b < q → q < r.start → ¬ t.HasText q) ∧ above.start = b) ∧
      above.stop = r.stop ∧ both.start = above.start ∧ both.stop = t.lineStop r.stop := by
  intro c line m r above both
  have line_eq : line = t.lineStart cursor := lineStart_min t cursor
  have indent : m = t.blanksFrom line := by
    rw [line_eq]
    exact indentOf_eq t cursor
  rw [indent]
  have extent : Extent t line r := line_eq ▸ inner_extent t cursor
  have starts : ((∀ q, t.FittingLine (· < t.blanksFrom line) q → ¬ q < line) ∧ above.start = 0) ∨
      ∃ b, t.NearestAbove (· < t.blanksFrom line) line b ∧ above.start = b :=
    line_eq ▸ withAbove.span_start t cursor
  refine ⟨rfl, ⟨rfl, rfl, rfl⟩, ⟨?_, ?_, extent.stop_le_size⟩, ⟨extent.starts, extent.stop_startsLine⟩,
    fun q => extent.le_blanksFrom, ?_, ?_, ?_, ?_, rfl, rfl, withBoth_stop t cursor⟩
  · exact Nat.le_trans extent.start_le (lineStart_le t c)
  · exact extent.le_stop (Nat.min_le_right cursor t.size)
  · rcases extent.stop with ⟨free, ends⟩ | below
    · exact ⟨fun _ => free, fun _ => ends⟩
    · exact ⟨fun ends => absurd below.line.lt_size (Nat.not_lt.2 (Nat.le_of_eq ends.symm)),
        fun free => absurd below.below (free _ below.line)⟩
  · exact fun inside => extent.stop.resolve_left fun ⟨_, ends⟩ => inside ends
  · intro free
    constructor
    · rcases extent.start with ⟨_, zero⟩ | ⟨b, nearest, _⟩
      · exact zero
      · exact absurd nearest.above (free b nearest.line)
    · rcases starts with ⟨_, zero⟩ | ⟨b, nearest, _⟩
      · exact zero
      · exact absurd nearest.above (free b nearest.line)
  · intro b nearest
    rcases extent.start with ⟨free, _⟩ | ⟨b', nearest', past, stops, blank⟩
    · exact absurd nearest.above (free b nearest.line)
    obtain rfl := nearest.unique nearest'
    refine ⟨past, extent.start_le, stops, blank, ?_⟩
    rcases starts with ⟨free, _⟩ | ⟨b', nearest', start⟩
    · exact absurd nearest.above (free b nearest.line)
    · rw [start, nearest'.unique nearest]

/-- The blocks of lines with text are apart or one within the other. A block holds the blocks of
all lines with text that start in it, and these are indented as far; from those that are indented
no further each kind of block comes out the same. -/
theorem blocks_nest (t : Text) {p q : Nat} (hp : t.HasText (t.lineStart p))
    (hq : t.HasText (t.lineStart q)) :
    let m := t.blanksFrom (t.lineStart p)
    let n := t.blanksFrom (t.lineStart q)
    let r := inner.span t p
    let s := inner.span t q
    (r.stop ≤ s.start ∨ s.stop ≤ r.start ∨ r.covers s ∨ s.covers r) ∧
      (r.contains (t.lineStart q) →
        m ≤ n ∧ r.covers s ∧ (m = n → ∀ b : IndentBlock, b.span t p = b.span t q)) := by
  intro m n r s
  have outer : Extent t (t.lineStart p) r := inner_extent t p
  have within : Extent t (t.lineStart q) s := inner_extent t q
  have line := lineStart_startsLine t p
  have line' := lineStart_startsLine t q
  constructor
  · rcases Nat.le_total m n with le | le
    · rcases outer.covers_or_apart within line' hq le with covers | before | after
      · exact Or.inr (Or.inr (Or.inl covers))
      · exact Or.inl before
      · exact Or.inr (Or.inl after)
    · rcases within.covers_or_apart outer line hp le with covers | before | after
      · exact Or.inr (Or.inr (Or.inr covers))
      · exact Or.inr (Or.inl before)
      · exact Or.inl after
  · intro inside
    simp only [Span.contains, Bool.and_eq_true, decide_eq_true_eq] at inside
    obtain ⟨ge, lt⟩ := inside
    have deeper : m ≤ n := outer.le_blanksFrom line' hq ge lt
    have covers := outer.covers_of_inside within hq deeper ge lt
    refine ⟨deeper, by simp [Span.covers, covers], fun same b => span_congr b hp hq same ?_⟩
    -- a line that is indented less lies outside of the block, and both lines lie in it
    intro x hx
    have start := outer.start_le
    have stop := outer.lt_stop hp
    rcases outer.outside hx with ⟨before, above⟩ | ⟨after, below⟩ <;> omega

theorem blocks_nest_around_deeper :
    let t : Text := #['a', '\n', ' ', 'b', '\n', ' ', ' ', 'c', '\n', '\n', ' ', 'd', '\n']
    t.HasText (t.lineStart 3) ∧ t.HasText (t.lineStart 11) ∧
      (inner.span t 3).contains (t.lineStart 11) ∧
      inner.span t 3 = { start := 2, stop := 13, lineWise := true } ∧
      (inner.span t 3).covers (inner.span t 11) ∧
      withAbove.span t 3 = withAbove.span t 11 ∧
      withAbove.span t 11 = { start := 0, stop := 13, lineWise := true } := by
  intro t
  obtain ⟨text, width⟩ := indent?_eq_some_iff.1 (show t.indent? (t.lineStart 3) = some 1 by cbv)
  obtain ⟨text', width'⟩ := indent?_eq_some_iff.1 (show t.indent? (t.lineStart 11) = some 1 by cbv)
  have inside : (inner.span t 3).contains (t.lineStart 11) := by cbv
  obtain ⟨_, covers, alike⟩ := (blocks_nest t text text').2 inside
  exact ⟨text, text', inside, by cbv, covers, alike (width.trans width'.symm) withAbove, by cbv⟩

end IndentBlock

end ModalEditing
