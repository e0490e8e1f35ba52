import Mathlib
import ModalEditing.Editor.Dispatch
import ModalEditing.Keymap.Standard
import ModalEditing.Proofs.IndentedLines
import ModalEditing.Proofs.WordBoundaries

/-! Words as the arguments of operators. A span up to the next word ends with its line where that
word begins the next line, but takes the newline in where white space comes before the word. A
change that begins on a word goes to a word end instead; nothing being left of the word, it goes to
the end of another one. -/

namespace ModalEditing

theorem getElem?_or_getLast? {l : List Nat} {n : Nat} (h : l.length ≤ n) :
    l[n - 1]?.or l.getLast? = l.getLast? := by
  rcases Nat.lt_or_eq_of_le h with beyond | rfl
  · rw [List.getElem?_eq_none (by omega), Option.none_or]
  · rw [List.getLast?_eq_getElem?, Option.or_self]

namespace Text

variable {t : Text} {p q n : Nat} {k : CharClass}

def wordEndsFrom (t : Text) (p : Nat) : List Nat := offsetsWith t.EndsWord p t.size

theorem wordEndsFrom_of_endsWord (h : t.EndsWord p) :
    t.wordEndsFrom p = p :: t.wordEndsAfter p := by
  have none_before : offsetsWith t.EndsWord p p = [] :=
    offsetsWith_eq_nil fun x above below => absurd above (Nat.not_le.2 below)
  rw [wordEndsFrom, offsetsWith_split (Nat.le_refl p) h.1 h, none_before]
  rfl

theorem wordEndsFrom_of_not_endsWord (h : p < t.size) (inner : ¬ t.EndsWord p) :
    t.wordEndsFrom p = t.wordEndsAfter p := by
  have rest : t.size - p = t.size - (p + 1) + 1 := by omega
  rw [wordEndsFrom, wordEndsAfter, offsetsWith, rest, List.range'_succ,
    List.filter_cons_of_neg (by simpa using inner)]
  rfl

theorem stepMany_nextWordEnd_mem (hp : p ≤ t.size) (hn : 1 ≤ n) :
    stepMany t.nextWordEnd n p = p ∨ stepMany t.nextWordEnd n p ∈ t.wordEndsAfter p := by
  rw [stepMany_nextWordEnd hp hn]
  cases found : (t.wordEndsAfter p)[n - 1]? with
  | some e => exact Or.inr (List.mem_of_getElem? found)
  | none =>
    cases last : (t.wordEndsAfter p).getLast? with
    | some e => exact Or.inr (List.mem_of_getLast? last)
    | none => exact Or.inl rfl

theorem classAt?_succ_of_inner (here : t.classAt? p = some k) (hk : k ≠ .space)
    (inner : ¬ t.EndsWord p) : t.classAt? (p + 1) = some k := by
  by_cases same : t.classAt? (p + 1) = some k
  · exact same
  · exact absurd ⟨lt_size_of_classAt? here, classAt?_ne_space here hk, Or.inr (here ▸ same)⟩ inner

theorem nextWordEnd_runsTo (here : t.classAt? p = some k) (hk : k ≠ .space)
    (inner : ¬ t.EndsWord p) : t.RunsTo k p (t.nextWordEnd p + 1) := by
  have more := classAt?_succ_of_inner here hk inner
  have still : t.runStop .space (p + 1) = p + 1 := by
    rw [runStop, dif_pos (lt_size_of_classAt? more), if_neg]
    exact fun space => classAt?_ne_space more hk ((classAt?_eq_some_iff _).2 space)
  have runs := t.runStop_runsTo k (p + 1)
  have stop : t.nextWordEnd p + 1 = t.runStop k (p + 1) := by
    have := runs.le
    simp only [nextWordEnd, still, more]
    omega
  rw [stop]
  refine ⟨by have := runs.le; omega, ?_, runs.stop⟩
  intro x above below
  rcases Nat.lt_or_eq_of_le above with later | rfl
  · exact runs.run x later below
  · exact here

theorem wordEndsAfter_ne_nil_of_inner (here : t.classAt? p = some k) (hk : k ≠ .space)
    (inner : ¬ t.EndsWord p) : t.wordEndsAfter p ≠ [] := by
  rcases wordEndsAfter_step t p with ⟨_, still⟩ | ⟨_, _, some_ahead⟩
  · have runs := nextWordEnd_runsTo here hk inner
    rw [still] at runs
    exact absurd (classAt?_succ_of_inner here hk inner) runs.stop
  · rw [some_ahead]
    exact List.cons_ne_nil _ _

theorem EndsWord.runsTo (h : t.EndsWord p) (here : t.classAt? p = some k) :
    t.RunsTo k p (p + 1) := by
  refine ⟨Nat.le_succ p, ?_, ?_⟩
  · intro x above below
    obtain rfl : x = p := by omega
    exact here
  · rcases h.2.2 with last | other
    · rw [last, classAt?_eq_none (Nat.le_refl _)]
      exact (Option.some_ne_none k).symm
    · exact here ▸ other

/-- The word ends seen from a place include this place. Where it is one, they lead where the word
ends after it lead only if there are fewer of these than counted. -/
theorem wordEndsFrom_reached (here : t.classAt? p = some k) (hk : k ≠ .space)
    (enough : t.EndsWord p → (t.wordEndsAfter p).length < n) :
    (t.wordEndsFrom p)[n - 1]?.or (t.wordEndsFrom p).getLast? =
      some ((t.wordEndsAfter p)[n - 1]?.getD ((t.wordEndsAfter p).getLast?.getD p)) := by
  by_cases ends : t.EndsWord p
  · have beyond := enough ends
    rw [wordEndsFrom_of_endsWord ends, getElem?_or_getLast? (l := p :: _) beyond,
      List.getLast?_cons, List.getElem?_eq_none (by omega), Option.getD_none]
  · rw [wordEndsFrom_of_not_endsWord (lt_size_of_classAt? here) ends]
    have some_ahead := List.getLast?_isSome.2 (wordEndsAfter_ne_nil_of_inner here hk ends)
    obtain ⟨last, hl⟩ := Option.isSome_iff_exists.1 some_ahead
    rw [hl]
    cases (t.wordEndsAfter p)[n - 1]? <;> rfl

theorem contentStop_gt (h : p < t.size) (inline : t[p]? ≠ some '\n') : p < t.contentStop p := by
  have past := lt_lineStop h
  unfold contentStop
  simp only
  split
  · next newline =>
    refine Nat.lt_of_le_of_ne (by omega) fun same => inline ?_
    rw [same]
    exact newline.2
  · exact past

theorem newline_of_classAt? (here : t.classAt? p = some k) (hk : k ≠ .space) : t[p]? ≠ some '\n' :=
  fun newline => classAt?_ne_space here hk (classAt?_of_newline newline)

end Text

namespace Motion

variable {t : Text} {cursor nl : Nat} {ctx : MotionContext} {k : CharClass}

theorem moved?_getD (p q : Nat) : (moved? p q).getD p = q := by
  unfold moved?
  split
  · next same => exact same.symm
  · rfl

theorem span?_wordEnd (here : t.classAt? cursor = some k) (hk : k ≠ .space) (ctx : MotionContext) :
    wordEnd.span? t cursor ctx =
      some { start := cursor
             stop := Text.stepMany t.nextWordEnd (max ctx.count 1) cursor + 1 } := by
  have inside := Text.lt_size_of_classAt? here
  have reached := Text.stepMany_nextWordEnd_mem (Nat.le_of_lt inside) (Nat.le_max_right ctx.count 1)
  have target : (wordEnd.target? t cursor ctx).getD cursor =
      Text.stepMany t.nextWordEnd (max ctx.count 1) cursor := by
    unfold target?
    simp only [Nat.min_eq_left (Nat.le_of_lt inside)]
    exact moved?_getD _ _
  unfold span?
  simp only [reach, Nat.min_eq_left (Nat.le_of_lt inside), target]
  generalize Text.stepMany t.nextWordEnd (max ctx.count 1) cursor = e at reached ⊢
  have past : cursor ≤ e ∧ e < t.contentStop e := by
    rcases reached with rfl | ahead
    · exact ⟨Nat.le_refl _, Text.contentStop_gt inside (Text.newline_of_classAt? here hk)⟩
    · obtain ⟨above, _, ends⟩ := mem_offsetsWith.1 ahead
      refine ⟨by omega, Text.contentStop_gt ends.1 fun newline => ?_⟩
      exact ends.2.1 (Text.classAt?_of_newline newline)
  have stop : max cursor (min (e + 1) (t.contentStop e)) = e + 1 := by omega
  rw [Nat.min_eq_left past.1, Nat.max_eq_right past.1, stop, Span.nonempty?, Span.isEmpty,
    if_neg (by simp only [beq_iff_eq]; omega)]

theorem beforeLineStart_start (t : Text) (r : Span) : (beforeLineStart t r).start = r.start := by
  unfold beforeLineStart
  split <;> rfl

theorem beforeLineStart_stop (t : Text) (r : Span) :
    (beforeLineStart t r).stop ≤ r.stop ∧ r.stop ≤ (beforeLineStart t r).stop + 1 := by
  unfold beforeLineStart
  split
  · simp only
    omega
  · exact ⟨Nat.le_refl _, Nat.le_succ _⟩

theorem beforeLineStart_of_startsLine {r : Span} (h : t.StartsLine r.stop)
    (more : r.start + 1 < r.stop) (inside : r.stop < t.size) :
    (beforeLineStart t r).stop = r.stop - 1 := by
  rw [beforeLineStart, if_pos ⟨more, inside, h.lineStart_eq⟩]

theorem span?_wordForward (hc : cursor < t.size) (count : ctx.count = 1) :
    wordForward.span? t cursor ctx =
      some (beforeLineStart t { start := cursor, stop := t.nextWordStart cursor }) := by
  have past := (Text.nextWordStart_nearest hc).1
  unfold span?
  simp only [reach, exclusiveEnd?, Nat.min_eq_left (Nat.le_of_lt hc), count, Nat.max_self,
    Text.stepMany_one, Span.between, Nat.max_eq_right (Nat.le_of_lt past),
    Nat.min_eq_left (Nat.le_of_lt past), Option.bind_eq_bind, Option.bind_some]
  rw [Span.nonempty?, if_neg]
  unfold beforeLineStart
  simp only [Span.isEmpty, beq_iff_eq]
  split <;> simp only <;> omega

/-- The span up to the next word leaves the newline of its own line alone where this word is still
on the line, or begins the next line. -/
theorem wordForward_keeps_newline (hc : cursor < nl) (count : ctx.count = 1)
    (inline : ∀ x, cursor ≤ x → x < nl → t[x]? ≠ some '\n') (newline : t[nl]? = some '\n')
    (more : nl + 1 < t.size) :
    ∃ r, wordForward.span? t cursor ctx = some r ∧ r.start = cursor ∧
      (r.stop ≤ nl ↔ (∃ w, cursor < w ∧ w < nl ∧ t.StartsWord w) ∨ t.StartsWord (nl + 1)) := by
  obtain ⟨past, reached, between⟩ := Text.nextWordStart_nearest (t := t) (p := cursor) (by omega)
  rw [span?_wordForward (by omega) count]
  refine ⟨_, rfl, beforeLineStart_start _ _, ?_⟩
  -- the newline itself starts no word, since its line is not empty
  have ends_line : ¬ t.StartsWord nl := by
    rintro ⟨_, ⟨other, _⟩ | empty⟩
    · exact other (Text.classAt?_of_newline newline)
    · simp only [Text.isEmptyLine, Bool.and_eq_true, Bool.or_eq_true, beq_iff_eq] at empty
      rcases empty.2 with zero | blank
      · omega
      · exact inline (nl - 1) (by omega) (by omega) blank
  have shortened := beforeLineStart_stop t { start := cursor, stop := t.nextWordStart cursor }
  have trimmed := beforeLineStart_of_startsLine (t := t)
    (r := { start := cursor, stop := t.nextWordStart cursor })
  simp only at shortened trimmed
  generalize t.nextWordStart cursor = w at *
  constructor
  · intro kept
    have starts := reached.resolve_left (by omega)
    rcases Nat.lt_trichotomy w nl with on_line | rfl | beyond
    · exact Or.inl ⟨w, past, on_line, starts⟩
    · exact absurd starts ends_line
    · obtain rfl : w = nl + 1 := by omega
      exact Or.inr starts
  · rintro (⟨x, above, below, starts⟩ | starts)
    · have nearest : w ≤ x := Nat.le_of_not_lt fun passed => between x above passed starts
      omega
    · have nearest : w ≤ nl + 1 := Nat.le_of_not_lt fun passed =>
        between (nl + 1) (by omega) passed starts
      rcases Nat.lt_or_eq_of_le nearest with before | rfl
      · omega
      · rw [trimmed ⟨Nat.le_of_lt more, Or.inr newline⟩ (by omega) more]
        exact Nat.le_refl nl

theorem wordForward_keeps_newline_before_empty :
    let t := Text.ofString "a\n\n b"
    t[1]? = some '\n' ∧ t.isEmptyLine 2 ∧
      ∃ r, wordForward.span? t 0 {} = some r ∧ r.start = 0 ∧ r.stop ≤ 1 := by
  intro t
  have inline (x : Nat) (_ : 0 ≤ x) (below : x < 1) : t[x]? ≠ some '\n' := by
    obtain rfl := Nat.lt_one_iff.1 below
    decide
  obtain ⟨r, found, start, keeps⟩ := wordForward_keeps_newline (show 0 < 1 by decide)
    (show ({} : MotionContext).count = 1 from rfl) inline (by decide) (by decide)
  exact ⟨by decide, by decide, r, found, start, keeps.2 (Or.inr (by decide +kernel))⟩

/-- The next word does not begin its line, and the span takes the newline in. -/
theorem wordForward_takes_newline :
    let t := Text.ofString "foo\n  bar"
    (∀ x < 3, t[x]? ≠ some '\n') ∧ t[3]? = some '\n' ∧ 3 + 1 < t.size ∧
      wordForward.span? t 0 {} = some { start := 0, stop := 6 } := by
  decide +kernel

end Motion

namespace Turn

variable {t : Turn} {text : Text} {k : CharClass} {o : Operator} {c : Command} {r : Span}

theorem runCommand_of_span (operator : c.operator = some o)
    (found : (effectiveArgument o c.argument text t.cursor).span? text t.cursor
      (c.context t.column) = some r) :
    (t.runCommand text c).actions =
      (t.actions.push (.operate o r (if r.lineWise then .line else .character) c.count
        c.register)).push (.setCursor r.start) := by
  unfold runCommand
  simp only [operator, found]
  rfl

theorem effectiveArgument_of_change {cursor : Nat} (here : text.classAt? cursor = some k)
    (hk : k ≠ .space) :
    effectiveArgument .change (.motion .wordForward) text cursor = .motion .wordEnd := by
  simp [effectiveArgument, here, hk]

theorem change_spans (pending : t.mode.isOperatorPending)
    (operator : t.command.operator = some .change)
    (here : text.classAt? t.cursor = some k) (hk : k ≠ .space) :
    let n := max (t.command.totalCount.getD 1) 1
    (t.run text (.motion .wordForward)).actions =
      (t.actions.push (.operate .change
        { start := t.cursor, stop := Text.stepMany text.nextWordEnd n t.cursor + 1 }
        .character n t.command.register)).push (.setCursor t.cursor) := by
  intro n
  have count : max n 1 = n := by omega
  have found : (effectiveArgument .change (.motion .wordForward) text t.cursor).span? text t.cursor
      ((t.command.complete (.motion .wordForward)).context t.column) =
        some { start := t.cursor, stop := Text.stepMany text.nextWordEnd n t.cursor + 1 } := by
    rw [effectiveArgument_of_change here hk, Argument.span?, Motion.span?_wordEnd here hk]
    exact congrArg (fun m => some (Span.mk t.cursor (Text.stepMany text.nextWordEnd m _ + 1) false))
      count
  rw [run, argument, if_pos pending]
  exact runCommand_of_span (t := { t with command := {} }) operator found

/-- A change to the next word leads from a word to the word end with the number of the count, or to
the last one. Where the cursor stands on a word end this one does not count, so the change goes on
to later words; but not where the count asks for more word ends than there are. -/
theorem change_to_word_end (pending : t.mode.isOperatorPending)
    (operator : t.command.operator = some .change)
    (here : text.classAt? t.cursor = some k) (hk : k ≠ .space) :
    let p := t.cursor
    let n := max (t.command.totalCount.getD 1) 1
    ∃ e, e = (text.wordEndsAfter p)[n - 1]?.getD ((text.wordEndsAfter p).getLast?.getD p) ∧
      (t.run text (.motion .wordForward)).actions =
        (t.actions.push (.operate .change { start := p, stop := e + 1 } .character n
          t.command.register)).push (.setCursor p) ∧
      ((text.EndsWord p → (text.wordEndsAfter p).length < n) →
        (text.wordEndsFrom p)[n - 1]?.or (text.wordEndsFrom p).getLast? = some e ∧
          (n = 1 → text.RunsTo k p (e + 1))) := by
  intro p n
  have inside : p < text.size := Text.lt_size_of_classAt? here
  have reached : Text.stepMany text.nextWordEnd n p =
      (text.wordEndsAfter p)[n - 1]?.getD ((text.wordEndsAfter p).getLast?.getD p) :=
    Text.stepMany_nextWordEnd (Nat.le_of_lt inside) (Nat.le_max_right _ 1)
  refine ⟨_, reached, change_spans pending operator here hk, fun enough => ⟨?_, ?_⟩⟩
  · rw [reached]
    exact Text.wordEndsFrom_reached here hk enough
  · intro once
    rw [once] at enough ⊢
    by_cases ends : text.EndsWord p
    · rcases Text.wordEndsAfter_step text p with ⟨_, still⟩ | ⟨_, _, some_ahead⟩
      · rw [Text.stepMany_one, still]
        exact ends.runsTo here
      · have none_ahead := enough ends
        rw [some_ahead, List.length_cons] at none_ahead
        omega
    · rw [Text.stepMany_one]
      exact Text.nextWordEnd_runsTo here hk ends

theorem change_to_word_end_counted :
    let text := Text.ofString "foo.bar"
    let t : Turn :=
      { modes := { mode := .operatorPending .normal }
        command := { stage := .awaitingArgument, operatorCount := some 2, operator := some .change }
        cursor := 0 }
    text.classAt? 0 = some .word ∧ ¬ text.EndsWord 0 ∧ text.wordEndsFrom 0 = [2, 3, 6] ∧
      (t.run text (.motion .wordForward)).actions =
        #[.operate .change { start := 0, stop := 4 } .character 2 none, .setCursor 0] := by
  intro text t
  have here : text.classAt? 0 = some .word := by decide +kernel
  have inner : ¬ text.EndsWord 0 := by decide +kernel
  have ends : text.wordEndsAfter 0 = [2, 3, 6] := by decide +kernel
  obtain ⟨e, reached, actions, _⟩ :=
    change_to_word_end (t := t) rfl rfl here CharClass.noConfusion
  obtain rfl : e = 3 := reached.trans (by rw [ends]; rfl)
  exact ⟨here, inner, by decide +kernel, actions⟩

/-- From the last letter of a word, to the end of the word after it. -/
theorem change_to_word_end_passes_word :
    let text := Text.ofString "foo bar"
    let waiting := ((Editor.starting .normal .inclusive).respond .standard text 2
      (.input (.key (.plain 'c')))).editor
    let t : Turn := { waiting.toControl with cursor := 2 }
    text.classAt? 2 = some .word ∧ text.wordEndsFrom 2 = [2, 6] ∧
      t.mode.isOperatorPending ∧ t.command.operator = some .change ∧
      (t.run text (.motion .wordForward)).actions =
        #[.operate .change { start := 2, stop := 7 } .character 1 none, .setCursor 2] := by
  intro text waiting t
  have typed : waiting.toControl =
      { modes := { mode := .operatorPending .normal }
        command := { stage := .awaitingArgument, operator := some .change } } := by cbv
  have here : t = { waiting.toControl with cursor := 2 } := rfl
  rw [here, typed]
  decide +kernel

end Turn

end ModalEditing
