import ModalEditing.Proofs.CountPlaces
import ModalEditing.Proofs.LineSpans

/-! The column of moves down and up. All of them keep the column of the place where the first one
began, whatever lines they cross, or the last character of each line after a move to the end of
one. So moves that lead down and as far up again lead back. -/

namespace ModalEditing

namespace Text

variable {t : Text} {l p q w w' : Nat}

/-- The line that starts at `l` has `w` characters, its newline left out. -/
structure LineWidth (t : Text) (l w : Nat) : Prop where
  inline : ∀ p, l ≤ p → p < l + w → ∃ c, t[p]? = some c ∧ c ≠ '\n'
  ends : t[l + w]? = some '\n' ∨ l + w = t.size

/-- A character of its line stands at `p`, or the line is empty. -/
def OnLine (t : Text) (p : Nat) : Prop :=
  ∃ w, t.LineWidth (t.lineStart p) w ∧ (w = 0 ∧ p = t.lineStart p ∨ p < t.lineStart p + w)

theorem LineWidth.le (h : t.LineWidth l w) (h' : t.LineWidth l w') : w ≤ w' := by
  refine Nat.le_of_not_lt fun less => ?_
  obtain ⟨c, here, inline⟩ := h.inline (l + w') (by omega) (by omega)
  rcases h'.ends with newline | ends
  · exact inline (Option.some.inj (here.symm.trans newline))
  · rw [ends, Array.getElem?_eq_none (Nat.le_refl _)] at here
    contradiction

theorem lineWidth_contentStop (h : l ≤ t.size) : t.LineWidth l (t.contentStop l - l) := by
  have stop := Nat.add_sub_cancel' (le_contentStop h)
  exact ⟨fun p le lt => contentStop_inline le (stop ▸ lt), stop.symm ▸ contentStop_ends h⟩

theorem LineWidth.lastOnLine (h : t.LineWidth l w) (le : l ≤ t.size) :
    t.lastOnLine l = l + (w - 1) := by
  have full := lineWidth_contentStop le
  have width : w = t.contentStop l - l := Nat.le_antisymm (h.le full) (full.le h)
  unfold Text.lastOnLine
  split <;> omega

theorem lineStart_lastOnLine (t : Text) (p : Nat) :
    t.lineStart (t.lastOnLine (t.lineStart p)) = t.lineStart p := by
  rcases Nat.lt_or_ge (t.lineStart p) (max t.size 1) with inside | outside
  · exact lineStart_placeOnLine (getElem?_linesAbove inside) .last
  · have le := t.lineStart_le_size p
    have above := t.le_lastOnLine (t.lineStart p)
    have below := lastOnLine_le_size le
    rw [show t.lastOnLine (t.lineStart p) = t.lineStart p by omega]
    exact (t.lineStart_startsLine p).lineStart_eq

end Text

def Column.within : Column → Nat → Nat
  | offset n, w => min n (w - 1)
  | last, w => w - 1

theorem Text.LineWidth.placeOnLine {t : Text} {l w : Nat} (h : t.LineWidth l w) (le : l ≤ t.size)
    (c : Column) : t.placeOnLine l c = l + c.within w := by
  cases c with
  | offset n =>
    rw [Text.placeOnLine, h.lastOnLine le, Column.within]
    omega
  | last => exact h.lastOnLine le

/-- The motion down or up, with the digits of its count. -/
structure VerticalMove where
  down : Bool
  digits : List Nat
  typed : Digits digits

namespace VerticalMove

variable {t : Text} {downs ups : List VerticalMove}

def motion (v : VerticalMove) : Motion := if v.down then .down else .up

def keys (v : VerticalMove) : List Key :=
  Key.digits v.digits ++ Key.typing (if v.down then "j" else "k")

def count (v : VerticalMove) : Nat := (countOf v.digits).getD 1

def crosses (v : VerticalMove) (t : Text) (i : Nat) : Nat :=
  min v.count (if v.down then t.lines.length - (i + 1) else i)

def leadsTo (v : VerticalMove) (t : Text) (i : Nat) : Nat :=
  if v.down then i + v.crosses t i else i - v.crosses t i

def crossed (t : Text) : Nat → List VerticalMove → Nat
  | _, [] => 0
  | i, v :: ms => v.crosses t i + crossed t (v.leadsTo t i) ms

def allLeadTo (t : Text) (i : Nat) (ms : List VerticalMove) : Nat :=
  ms.foldl (fun i v => v.leadsTo t i) i

theorem one_le_count (v : VerticalMove) : 1 ≤ v.count := by
  unfold count countOf
  split
  · exact Nat.le_refl 1
  · next some_digit =>
    exact Nat.le_min.2 ⟨v.typed.unpadded some_digit, by decide⟩

theorem allLeadTo_append (t : Text) (i : Nat) (ms ms' : List VerticalMove) :
    allLeadTo t i (ms ++ ms') = allLeadTo t (allLeadTo t i ms) ms' := List.foldl_append

theorem allLeadTo_down (h : ∀ v ∈ downs, v.down = true) (i : Nat) :
    allLeadTo t i downs = i + crossed t i downs := by
  induction downs generalizing i with
  | nil => rfl
  | cons v ms ih =>
    have down : v.leadsTo t i = i + v.crosses t i := if_pos (h v List.mem_cons_self)
    rw [allLeadTo, List.foldl_cons, crossed, ← Nat.add_assoc, ← down]
    exact ih (fun x hx => h x (List.mem_cons_of_mem v hx)) _

theorem allLeadTo_up (h : ∀ v ∈ ups, v.down = false) (i : Nat) :
    allLeadTo t i ups = i - crossed t i ups := by
  induction ups generalizing i with
  | nil => rfl
  | cons v ms ih =>
    have up : v.leadsTo t i = i - v.crosses t i :=
      if_neg (Bool.eq_false_iff.1 (h v List.mem_cons_self))
    rw [allLeadTo, List.foldl_cons, crossed, ← Nat.sub_sub, ← up]
    exact ih (fun x hx => h x (List.mem_cons_of_mem v hx)) _

theorem target?_motion (v : VerticalMove) (t : Text) {cursor : Nat} (inside : cursor ≤ t.size)
    {ctx : MotionContext} (counted : ctx.count = v.count) :
    v.crosses t (t.linesAbove cursor) = 0 ∧ v.motion.target? t cursor ctx = none ∨
      ∃ l, 0 < v.crosses t (t.linesAbove cursor) ∧
        t.lines[v.leadsTo t (t.linesAbove cursor)]? = some l ∧
        v.motion.target? t cursor ctx =
          some (t.placeOnLine l (ctx.column.getD (.offset (cursor - t.lineStart cursor)))) := by
  have some_count := v.one_le_count
  have counted' : max ctx.count 1 = v.count := by omega
  unfold leadsTo crosses motion Motion.target?
  cases v.down with
  | true =>
    simp only [if_true, Nat.min_eq_left inside, counted']
    rcases Motion.lineAway?_down t cursor some_count with ⟨last, missing⟩ | ⟨l, more, here, away, _⟩
    · rw [missing]
      exact Or.inl ⟨by rw [← Text.linesBelow, last, Nat.min_zero], rfl⟩
    · rw [away]
      exact Or.inr ⟨l, Nat.lt_min.2 ⟨some_count, more⟩, here, rfl⟩
  | false =>
    simp only [Bool.false_eq_true, if_false, Nat.min_eq_left inside, counted']
    rcases Motion.lineAway?_up t cursor some_count with ⟨first, missing⟩ | ⟨l, more, here, away, _⟩
    · rw [missing]
      exact Or.inl ⟨by rw [first, Nat.min_zero], rfl⟩
    · rw [away]
      exact Or.inr ⟨l, Nat.lt_min.2 ⟨some_count, more⟩, here, rfl⟩

end VerticalMove

namespace Turn

variable {t : Turn} {text : Text} {m : Motion}

theorem finishMove_of_normal (mode : t.mode = .normal) (text : Text) :
    t.finishMove text = { t with modes := { t.modes with mode := .normal, anchor := none } } := by
  have mode' : t.modes.mode = .normal := mode
  have finished : t.modes.finishCommand text t.cursor =
      ({ t.modes with mode := .normal, anchor := none }, t.cursor) := by
    simp [ModeState.finishCommand, ModeState.switch, ModeState.transition, mode', Mode.shape?,
      Mode.after, Mode.hasSelection]
  have settled : t.withModes (t.modes.finishCommand text t.cursor) =
      { t with modes := { t.modes with mode := .normal, anchor := none } } := by
    rw [finished, withModes, settleAt, if_pos rfl]
  rw [finishMove, settled]
  exact if_neg Bool.false_ne_true

def motionContext (t : Turn) (m : Motion) : MotionContext where
  count := max (t.command.totalCount.getD 1) 1
  typed := t.command.totalCount
  column := if m.isVertical then t.column else none

theorem run_motion_of_normal (mode : t.mode = .normal) (text : Text) (m : Motion) :
    t.run text (.motion m) =
      ({ t with command := {} }.moveBy text m t.command.totalCount).finishMove text := by
  have settled : t.mode.isOperatorPending = false := by rw [mode]; rfl
  exact if_neg (Bool.eq_false_iff.1 settled)

theorem run_motion_of_none (mode : t.mode = .normal)
    (missing : m.target? text t.cursor (t.motionContext m) = none) :
    t.run text (.motion m) =
      { t with
        command := {}, modes := { t.modes with mode := .normal, anchor := none } }.emit .bell := by
  have moved : { t with command := {} }.moveBy text m t.command.totalCount =
      { t with command := {} }.emit .bell := by
    unfold motionContext at missing
    simp only [moveBy, missing]
  have settled : ({ t with command := {} }.emit .bell).mode = .normal := mode
  rw [run_motion_of_normal mode, moved, finishMove_of_normal settled]
  rfl

theorem run_motion_of_some {q : Nat} (mode : t.mode = .normal)
    (found : m.target? text t.cursor (t.motionContext m) = some q) :
    t.run text (.motion m) =
      { t with
        command := {}, modes := { t.modes with mode := .normal, anchor := none }
        column := t.columnAfter text m }.moveTo q := by
  have moved : { t with command := {} }.moveBy text m t.command.totalCount =
      { t with command := {}, column := t.columnAfter text m }.moveTo q := by
    unfold motionContext at found
    simp only [moveBy, found]
    rfl
  have settled :
      ({ t with command := {}, column := t.columnAfter text m }.moveTo q).mode = .normal := mode
  rw [run_motion_of_normal mode, moved, finishMove_of_normal settled]
  rfl

end Turn

namespace Session

variable {s : Session} {is : List Input} {m : Motion} {ds : List Nat}

def standing (s : Session) (p : Nat) (column : Option Column) : Session :=
  { s with
    editor := { modes := { s.editor.modes with mode := .normal, anchor := none }, column }
    cursor := p }

theorem motion_leadsTo (keymap : s.keymap.BuiltIn) (h : s.Idle) (mode : s.editor.mode = .normal)
    (digits : Digits ds) {x : String} (hx : (x, m) ∈ motionKeys) (other : x ≠ "0")
    (keys : is.map Input.toKey = Key.digits ds ++ Key.typing x) :
    let ctx : MotionContext :=
      { count := max ((countOf ds).getD 1) 1, typed := countOf ds
        column := if m.isVertical then s.editor.column else none }
    (m.target? s.text s.cursor ctx = none →
        s.LeadsTo is [.bell] (s.standing s.cursor s.editor.column)) ∧
      ∀ q, m.target? s.text s.cursor ctx = some q →
        s.LeadsTo is [.setCursor q] (s.standing q (s.opening.columnAfter s.text m)) := by
  intro ctx
  obtain ⟨is₁, is₂, rfl, keys₁, keys₂⟩ := List.map_eq_append_iff.1 keys
  have typed := prefixed_leadsTo h mode digits keys₁
  let s₁ := s.withCommand (prefixed ds)
  have mode₁ : s₁.opening.mode = .normal := mode
  have spelled : s₁.keymap.Spells s₁.editor.mode (.motion m) 0 (is₂.map Input.toKey) := by
    rw [keys₂]
    refine keymap.spells (Registry.standard_spells_motion hx other ?_)
    rw [show s₁.editor.mode = .normal from mode]
    rfl
  have ran := leadsTo_of_prefixFree (s := s₁) keymap.prefixFree spelled (Nat.zero_le _) h.waiting
    (prefixed_not_awaitingRegister ds) h.cursor
  have knows : s₁.opening.motionContext m = ctx := by
    have counted : (prefixed ds).totalCount = countOf ds := by
      by_cases none_typed : ds = [] <;>
        simp [CommandBuilder.totalCount, prefixed, countOf, none_typed]
    unfold Turn.motionContext
    rw [show s₁.opening.command = prefixed ds from rfl, counted]
    rfl
  constructor
  · intro missing
    have turned : s₁.handled (.motion m) = _ :=
      Turn.run_motion_of_none mode₁ (show m.target? s₁.text _ _ = none from knows ▸ missing)
    rw [turned] at ran
    exact typed.trans ran
  · intro q found
    have turned : s₁.handled (.motion m) = _ :=
      Turn.run_motion_of_some mode₁ (show m.target? s₁.text _ _ = some q from knows ▸ found)
    rw [turned] at ran
    exact typed.trans ran

structure Keeps (s : Session) (c : Column) : Prop extends s.Idle where
  keymap : s.keymap.BuiltIn
  mode : s.editor.mode = .normal
  column : s.editor.column.getD (.offset (s.cursor - s.text.lineStart s.cursor)) = c

end Session

/-- What a move down or up asks of the host, and where it leads to: to the column `c` of the line
that is as many lines away, as far as there are lines. Where there is none, cursor and column stay
as they are. -/
inductive VerticalMove.Effect (v : VerticalMove) (c : Column) (s : Session) :
    List Action → Session → Prop where
  | rings (none_left : v.crosses s.text (s.text.linesAbove s.cursor) = 0) :
      v.Effect c s [.bell] (s.standing s.cursor s.editor.column)
  | lands {l w : Nat} (some_left : 0 < v.crosses s.text (s.text.linesAbove s.cursor))
      (line : s.text.lines[v.leadsTo s.text (s.text.linesAbove s.cursor)]? = some l)
      (width : s.text.LineWidth l w) :
      v.Effect c s [.setCursor (l + c.within w)] (s.standing (l + c.within w) (some c))

namespace Session

variable {s s' : Session} {is : List Input} {as : List Action} {c : Column} {v : VerticalMove}
  {ms : List VerticalMove}

def OnColumn (s : Session) (c : Column) : Prop :=
  s.cursor = s.text.placeOnLine (s.text.lineStart s.cursor) c

theorem Keeps.move (h : s.Keeps c) (keys : is.map Input.toKey = v.keys) :
    ∃ as s', s.LeadsTo is as s' ∧ v.Effect c s as s' := by
  have hx : ((if v.down then "j" else "k"), v.motion) ∈ motionKeys := by
    unfold VerticalMove.motion
    cases v.down <;> decide
  have other : (if v.down then "j" else "k") ≠ "0" := by cases v.down <;> decide
  have vertical : v.motion.isVertical := by
    unfold VerticalMove.motion
    cases v.down <;> rfl
  have kept : s.opening.columnAfter s.text v.motion = some c := by
    rw [← h.column]
    unfold Turn.columnAfter VerticalMove.motion
    cases v.down <;> rfl
  obtain ⟨rings, lands⟩ := motion_leadsTo h.keymap h.toIdle h.mode v.typed hx other keys
  simp only [vertical, if_true] at rings lands
  let ctx : MotionContext :=
    { count := max ((countOf v.digits).getD 1) 1, typed := countOf v.digits
      column := s.editor.column }
  have counted : ctx.count = v.count := Nat.max_eq_left v.one_le_count
  rcases v.target?_motion s.text h.cursor counted with
    ⟨none_left, missing⟩ | ⟨l, some_left, line, found⟩
  · exact ⟨_, _, rings missing, .rings none_left⟩
  · have inside := (Text.startsLine_of_getElem? line).le_size
    have width := Text.lineWidth_contentStop inside
    have landed := lands _ found
    rw [h.column, width.placeOnLine inside, kept] at landed
    exact ⟨_, _, landed, .lands some_left line width⟩

theorem Keeps.effect (h : s.Keeps c) (e : v.Effect c s as s') :
    s'.Keeps c ∧ s'.text = s.text ∧
      s.text.linesAbove s'.cursor = v.leadsTo s.text (s.text.linesAbove s.cursor) ∧
      (s.OnColumn c → s'.OnColumn c) := by
  cases e with
  | rings none_left =>
    refine ⟨⟨⟨rfl, rfl, h.cursor⟩, h.keymap, rfl, h.column⟩, rfl, ?_, id⟩
    unfold VerticalMove.leadsTo
    rw [none_left]
    split <;> rfl
  | @lands l w some_left line width =>
    have inside := (Text.startsLine_of_getElem? line).le_size
    have place := width.placeOnLine inside c
    have on_line := Text.lineStart_placeOnLine line c
    have cursor := Motion.placeOnLine_le_size inside c
    rw [place] at on_line cursor
    refine ⟨⟨⟨rfl, rfl, cursor⟩, h.keymap, rfl, rfl⟩, rfl, ?_, fun _ => ?_⟩
    · exact Text.linesAbove_eq (on_line.symm ▸ line)
    · show l + c.within w = s.text.placeOnLine (s.text.lineStart (l + c.within w)) c
      rw [on_line, place]

theorem Keeps.moves (h : s.Keeps c) (keys : is.map Input.toKey = ms.flatMap VerticalMove.keys) :
    ∃ as s', s.LeadsTo is as s' ∧ s'.Keeps c ∧ s'.text = s.text ∧
      s.text.linesAbove s'.cursor =
        VerticalMove.allLeadTo s.text (s.text.linesAbove s.cursor) ms ∧
      (s.OnColumn c → s'.OnColumn c) := by
  induction ms generalizing s is with
  | nil =>
    obtain rfl : is = [] := List.map_eq_nil_iff.1 keys
    exact ⟨[], s, ⟨rfl, rfl⟩, h, rfl, rfl, id⟩
  | cons v ms ih =>
    rw [List.flatMap_cons] at keys
    obtain ⟨is₁, is₂, rfl, keys₁, keys₂⟩ := List.map_eq_append_iff.1 keys
    obtain ⟨as, s₁, led, effect⟩ := h.move keys₁
    obtain ⟨keeps, text, line, on_column⟩ := h.effect effect
    obtain ⟨bs, s₂, led', keeps', text', line', on_column'⟩ := ih keeps keys₂
    refine ⟨as ++ bs, s₂, led.trans led', keeps', text'.trans text, ?_, on_column' ∘ on_column⟩
    rw [text, line] at line'
    exact line'

/-- Moves that come back to the line come back to the place. -/
theorem OnColumn.cursor_eq (h : s.OnColumn c) (h' : s'.OnColumn c) (text : s'.text = s.text)
    (line : s.text.linesAbove s'.cursor = s.text.linesAbove s.cursor) : s'.cursor = s.cursor := by
  rw [OnColumn, text, Text.lineStart_of_linesAbove line] at h'
  exact h'.trans h.symm

/-- What comes before the moves, and the column that they keep then: nothing and the column of the
cursor, or the motion to the end of the line and the last characters. -/
inductive Begins (s : Session) : List Key → Column → Prop where
  | here : s.Begins [] (.offset (s.cursor - s.text.lineStart s.cursor))
  | lineEnd : s.Begins [Key.plain '$'] .last

theorem Begins.leadsTo {start : List Key} (begins : s.Begins start c) (keymap : s.keymap.BuiltIn)
    (h : s.Idle) (mode : s.editor.mode = .normal) (fresh : s.editor.column = none)
    (keys : is.map Input.toKey = start) :
    ∃ as s', s.LeadsTo is as s' ∧ s'.Keeps c ∧ s'.text = s.text ∧
      s.text.lineStart s'.cursor = s.text.lineStart s.cursor ∧
      ((start = [] → s.text.OnLine s.cursor) → s'.OnColumn c) := by
  cases begins with
  | here =>
    obtain rfl : is = [] := List.map_eq_nil_iff.1 keys
    refine ⟨[], s, ⟨rfl, rfl⟩, ⟨h, keymap, mode, by rw [fresh]; rfl⟩, rfl, rfl, fun rests => ?_⟩
    obtain ⟨w, width, on_line⟩ := rests rfl
    have above := s.text.lineStart_le s.cursor
    rw [OnColumn, width.placeOnLine (s.text.lineStart_le_size _), Column.within]
    omega
  | lineEnd =>
    have hx : ("$", Motion.lineEnd) ∈ motionKeys := by decide
    have inside := s.text.lineStart_le_size s.cursor
    obtain ⟨-, lands⟩ := motion_leadsTo keymap h mode .nil hx (by decide) keys
    have found : Motion.lineEnd.target? s.text s.cursor {} =
        some (s.text.lastOnLine (s.text.lineStart s.cursor)) := by
      simp [Motion.target?, Nat.min_eq_left h.cursor, Motion.lineAway?, Text.walkLines, moved?]
    have on_line := s.text.lineStart_lastOnLine s.cursor
    refine ⟨_, _, lands _ found, ⟨⟨rfl, rfl, Text.lastOnLine_le_size inside⟩, keymap, rfl, rfl⟩,
      rfl, on_line, fun _ => ?_⟩
    show s.text.lastOnLine _ = s.text.lastOnLine (s.text.lineStart (s.text.lastOnLine _))
    rw [on_line]

/-- Moves down and up keep the column. Each of them lands at the column of the line that is as many
lines away as counted, or of the last one there is, and at most on its last character; where there
is no line it rings the bell and leaves cursor and column as they are. Moves down that cross `n`
lines, and then moves up that cross `n` lines, lead back to the place. -/
theorem vertical_moves_keep_column (keymap : s.keymap.BuiltIn) (h : s.Idle)
    (mode : s.editor.mode = .normal) (fresh : s.editor.column = none) {start : List Key}
    (begins : s.Begins start c) :
    (∀ (ms : List VerticalMove) (v : VerticalMove) (is js : List Input),
        is.map Input.toKey = start ++ ms.flatMap VerticalMove.keys →
        js.map Input.toKey = v.keys →
        ∃ as s₁ bs s₂, s.LeadsTo is as s₁ ∧ s₁.text = s.text ∧ s₁.LeadsTo js bs s₂ ∧
          v.Effect c s₁ bs s₂) ∧
      ∀ (downs ups : List VerticalMove) (n : Nat) (is js : List Input),
        (∀ v ∈ downs, v.down = true) → (∀ v ∈ ups, v.down = false) →
        VerticalMove.crossed s.text (s.text.linesAbove s.cursor) downs = n →
        VerticalMove.crossed s.text (s.text.linesAbove s.cursor + n) ups = n →
        (start = [] → s.text.OnLine s.cursor) →
        is.map Input.toKey = start → js.map Input.toKey = (downs ++ ups).flatMap VerticalMove.keys →
        ∃ as s₁ bs s₂, s.LeadsTo is as s₁ ∧ s₁.LeadsTo js bs s₂ ∧ s₂.text = s.text ∧
          s₂.cursor = s₁.cursor := by
  constructor
  · intro ms v is js keys keys'
    obtain ⟨is₁, is₂, rfl, keys₁, keys₂⟩ := List.map_eq_append_iff.1 keys
    obtain ⟨as, s₁, led, keeps, text, -⟩ := begins.leadsTo keymap h mode fresh keys₁
    obtain ⟨bs, s₂, led', keeps', text', -⟩ := keeps.moves keys₂
    obtain ⟨cs, s₃, moved, effect⟩ := keeps'.move keys'
    exact ⟨_, s₂, _, s₃, led.trans led', text'.trans text, moved, effect⟩
  · intro downs ups n is js down up down_n up_n rests keys keys'
    obtain ⟨as, s₁, led, keeps, text, line, on_column⟩ := begins.leadsTo keymap h mode fresh keys
    obtain ⟨bs, s₂, led', -, text', line', on_column'⟩ := keeps.moves keys'
    refine ⟨as, s₁, bs, s₂, led, led', text'.trans text, ?_⟩
    have at_column := on_column rests
    refine at_column.cursor_eq (on_column' at_column) text' (line'.trans ?_)
    have start : s.text.linesAbove s₁.cursor = s.text.linesAbove s.cursor := by
      rw [Text.linesAbove, Text.linesAbove, line]
    rw [VerticalMove.allLeadTo_append, VerticalMove.allLeadTo_down down,
      VerticalMove.allLeadTo_up up, text, start, down_n, up_n, Nat.add_sub_cancel]

theorem vertical_moves_keep_column_over_empty_line :
    let s : Session := { keymap := .standard, text := Text.ofString "abcd\n\nab", cursor := 3 }
    let press (cs : String) : List Input := cs.toList.map Input.text
    s.Idle ∧ s.text.OnLine 3 ∧ (s.pressAll (press "j")).1.cursor = 5 ∧
      (s.pressAll (press "j9j2k")).1.cursor = 3 := by
  intro s press
  have idle : s.Idle := ⟨rfl, rfl, by decide⟩
  have on_line : s.text.OnLine 3 :=
    ⟨_, Text.lineWidth_contentStop (s.text.lineStart_le_size 3), Or.inr (by decide +kernel)⟩
  let j : VerticalMove := ⟨true, [], .nil⟩
  let j' : VerticalMove := ⟨true, [9], ⟨by decide, by decide⟩⟩
  let k : VerticalMove := ⟨false, [2], ⟨by decide, by decide⟩⟩
  obtain ⟨each, back⟩ :=
    vertical_moves_keep_column (s := s) (Or.inr rfl) idle rfl rfl (Begins.here (s := s))
  refine ⟨idle, on_line, ?_, ?_⟩
  · obtain ⟨_, s₁, _, s₂, led, _, led', effect⟩ := each [] j [] (press "j") rfl (by decide)
    obtain rfl : s₁ = s := led.last.symm
    rw [led'.last]
    cases effect with
    | rings none_left => exact absurd none_left (by decide +kernel)
    | @lands l w _ line width =>
      have first : s.text.lines[j.leadsTo s.text (s.text.linesAbove 3)]? = some 5 := by
        decide +kernel
      obtain rfl : 5 = l := Option.some.inj (first.symm.trans line)
      have empty := width.lastOnLine (by decide)
      rw [show s.text.lastOnLine 5 = 5 by decide +kernel] at empty
      show 5 + min 3 (w - 1) = 5
      omega
  · obtain ⟨_, s₁, _, s₂, led, led', _, place⟩ := back [j, j'] [k] 2 [] (press "j9j2k")
      (by decide) (by decide) (by decide +kernel) (by decide +kernel) (fun _ => on_line) rfl
      (by decide)
    obtain rfl : s₁ = s := led.last.symm
    rw [led'.last]
    exact place

end Session

end ModalEditing
