import ModalEditing.Proofs.OperatedBlocks
import ModalEditing.Proofs.TypedCounts

/-! Where a count is typed. A number before the operator and one after it make up one count, and
the command that its argument completes has nothing else of them. So the product of the two comes
to the same, typed before the operator or after it. -/

namespace ModalEditing

structure Digits (ds : List Nat) : Prop where
  small : ∀ d ∈ ds, d ≤ 9
  lead : ds.head? ≠ some 0

structure Numeral (ds : List Nat) : Prop extends Digits ds where
  ne_nil : ds ≠ []

theorem Digits.nil : Digits [] := ⟨by simp, by simp⟩

theorem Digits.unpadded {ds : List Nat} (h : Digits ds) : Unpadded ds := by
  intro some_digit
  obtain ⟨d, rest, rfl⟩ := List.exists_cons_of_ne_nil some_digit
  have lead : d ≠ 0 := by simpa using h.lead
  rw [decimal, List.reverse_cons, Nat.ofDigits_append, Nat.ofDigits_singleton]
  have place : 0 < 10 ^ rest.reverse.length * d :=
    Nat.mul_pos (Nat.pow_pos (by decide)) (Nat.pos_of_ne_zero lead)
  omega

theorem Numeral.decimal_pos {ds : List Nat} (h : Numeral ds) : 0 < decimal ds :=
  h.unpadded h.ne_nil

def digitsOf (n : Nat) : List Nat := (Nat.digits 10 n).reverse

theorem decimal_digitsOf (n : Nat) : decimal (digitsOf n) = n := by
  rw [decimal, digitsOf, List.reverse_reverse, Nat.ofDigits_digits]

theorem numeral_digitsOf {n : Nat} (h : 0 < n) : Numeral (digitsOf n) := by
  have some_digit := Nat.digits_ne_nil_iff_ne_zero (b := 10).2 (Nat.ne_of_gt h)
  refine ⟨⟨?_, ?_⟩, ?_⟩
  · intro d hd
    exact Nat.le_of_lt_succ (Nat.digits_lt_base (by decide) (List.mem_reverse.1 hd))
  · rw [digitsOf, List.head?_reverse, List.getLast?_eq_some_getLast some_digit, ne_eq,
      Option.some.injEq]
    exact Nat.getLast_digit_ne_zero 10 (Nat.ne_of_gt h)
  · rw [digitsOf, ne_eq, List.reverse_eq_nil_iff]
    exact some_digit

def Key.digits (ds : List Nat) : List Key := ds.map fun d => Key.plain d.digitChar

theorem Dispatch.digit?_digitChar {d : Nat} (h : d ≤ 9) : digit? d.digitChar = some d := by
  have each : ∀ d ≤ 9, digit? d.digitChar = some d := by decide
  exact each d h

theorem Dispatch.intercept?_digit {x : Dispatch} {d : Nat} {b : CommandBuilder}
    (commands : x.mode.isTyping = false) (unselected : x.mode.isSelect = false)
    (waiting : x.waiting = []) (named : x.command.isAwaitingRegister = false) (digit : d ≤ 9)
    (pushed : x.command.pushDigit? d = some b) :
    x.intercept? (Key.plain d.digitChar) = some { x with command := b } := by
  have other : (Key.plain d.digitChar).code ≠ .esc := KeyCode.noConfusion
  have counted : x.count? d.digitChar = some { x with command := b } := by
    rw [count?, digit?_digitChar digit, Option.bind_some, pushed]
  unfold intercept?
  rw [if_neg (Bool.eq_false_iff.1 commands), if_neg other,
    if_neg (by simp [waiting, unselected]), if_neg (Bool.eq_false_iff.1 named)]
  exact counted

namespace CommandBuilder

variable {b b' : CommandBuilder} {before ds : List Nat}

theorem enterAll?_digits (h : b.count = countOf before) (digits : ∀ d ∈ ds, d ≤ 9)
    (lead : before = [] → ds.head? ≠ some 0) :
    b.enterAll? (ds.map Entry.digit) =
      some
        { b with
          count := countOf (before ++ ds)
          stage :=
            if ds = [] ∨ b.stage = .awaitingArgument then b.stage else .accumulatingCount } := by
  induction ds generalizing b before with
  | nil =>
    rw [List.append_nil, ← h]
    rfl
  | cons d ds ih =>
    have fits : ¬ (d > 9 ∨ d = 0 ∧ before = []) := by
      rintro (large | ⟨rfl, first⟩)
      · have := digits d List.mem_cons_self
        omega
      · exact lead first rfl
    have pushed : (Entry.digit d).enter? b = _ :=
      (pushDigit?_of_count h d).trans (if_neg fits)
    have more : before ++ [d] = [] → ds.head? ≠ some 0 := by simp
    rw [List.map_cons, enterAll?, List.foldlM_cons, pushed]
    refine (ih rfl (fun x hx => digits x (List.mem_cons_of_mem d hx)) more).trans ?_
    rw [List.append_assoc, List.singleton_append]
    by_cases waits : b.stage = .awaitingArgument <;> simp [waits]

theorem not_awaitingRegister_of_pushDigit? {d : Nat} (pushed : b.pushDigit? d = some b') :
    b'.isAwaitingRegister = false := by
  obtain ⟨n, rfl⟩ := exists_eq_of_pushDigit? pushed
  unfold isAwaitingRegister
  simp only
  split <;> rfl

end CommandBuilder

/-- The handler completes the command of the operator that waits, with the argument. -/
inductive Handler.Completes (o : Operator) : Handler → Argument → Prop where
  | motion (m : Motion) : Completes o (.motion m) (.motion m)
  | textObject (x : TextObject) : Completes o (.textObject x) (.textObject x)
  | doubled : Completes o (.operator o) .wholeLines

theorem Turn.run_of_pending {t : Turn} {o : Operator} {f : Handler} {a : Argument}
    (pending : t.mode.isOperatorPending) (entered : t.command.operator = some o)
    (completes : f.Completes o a) (text : Text) :
    t.run text f = { t with command := {} }.runCommand text (t.command.complete a) := by
  cases completes with
  | motion m => exact if_pos pending
  | textObject x => exact if_pos pending
  | doubled =>
    have completed := CommandBuilder.enterOperator_of_same entered
    obtain ⟨next, mode⟩ : ∃ next, t.mode = .operatorPending next := by
      cases mode : t.mode <;> simp_all [Mode.isOperatorPending]
    rw [run, operator, mode]
    simp only [completed]

def argumentKeys (o : Operator) : List (List Key) :=
  ((motionKeys.map Prod.fst).filter (· ≠ "0") ++ indentKeys.map Prod.fst).map Key.typing ++
    [[Key.plain o.key]]

theorem exists_spells_argument {o : Operator} {ks : List Key} (h : ks ∈ argumentKeys o) :
    ∃ f n a, Keymap.standard.Spells (.operatorPending .normal) f n ks ∧ n ≤ expansionLimit ∧
      f.Completes o a := by
  unfold argumentKeys at h
  simp only [List.map_append, List.mem_append, List.mem_map, List.mem_filter, List.mem_singleton,
    decide_eq_true_eq] at h
  rcases h with (⟨x, ⟨⟨e, listed, rfl⟩, other⟩, rfl⟩ | ⟨x, ⟨e, listed, rfl⟩, rfl⟩) | rfl
  · exact ⟨_, 0, _, (Registry.standard_spells_motion listed other rfl).mono Keymap.standard_extends,
      Nat.zero_le _, .motion e.2⟩
  · have handlers : ∀ e ∈ indentKeys, ∃ e' ∈ indentHandlers, e'.1 = e.2 := by decide
    obtain ⟨⟨name, b⟩, handler, rfl : name = e.2⟩ := handlers e listed
    exact ⟨_, 1, _, Keymap.standard_spells_object listed handler rfl, by decide, .textObject _⟩
  · exact ⟨_, 0, _, (Registry.standard_spells_operator o rfl).mono Keymap.standard_extends,
      Nat.zero_le _, .doubled⟩

namespace Session

variable {s : Session} {is : List Input} {o : Operator} {A B : List Nat}

def withCommand (s : Session) (b : CommandBuilder) : Session :=
  { s with editor := { s.editor with command := b } }

structure TakesDigits (s : Session) : Prop where
  commands : s.editor.mode.isTyping = false
  unselected : s.editor.mode.isSelect = false
  waiting : s.editor.waiting = []
  named : s.editor.command.isAwaitingRegister = false
  cursor : s.cursor ≤ s.text.size

theorem TakesDigits.press {i : Input} {d : Nat} {b : CommandBuilder} (h : s.TakesDigits)
    (digit : d ≤ 9) (hi : i.toKey = Key.plain d.digitChar)
    (pushed : s.editor.command.pushDigit? d = some b) : s.press i = (s.withCommand b, #[]) := by
  let x := s.editor.begin s.text s.cursor [{ key := i.toKey }]
  have caught : { x with queue := [] }.intercept? i.toKey =
      some { x with queue := [], command := b } := by
    rw [hi]
    exact Dispatch.intercept?_digit h.commands h.unselected h.waiting h.named digit pushed
  have place : min s.cursor s.text.size = s.cursor := Nat.min_eq_left h.cursor
  show (s.accept (x.run s.keymap s.text false).response, (x.run s.keymap s.text false).actions) = _
  rw [Dispatch.run_of_caught rfl caught]
  show (({ s.withCommand b with cursor := min s.cursor s.text.size } : Session), #[]) = _
  rw [place]
  rfl

/-- Digits go to the command being typed, and ask nothing of the host. -/
theorem TakesDigits.leadsTo {ds : List Nat} {b : CommandBuilder} (h : s.TakesDigits)
    (digits : ∀ d ∈ ds, d ≤ 9) (keys : is.map Input.toKey = Key.digits ds)
    (entered : s.editor.command.enterAll? (ds.map .digit) = some b) :
    s.LeadsTo is [] (s.withCommand b) := by
  induction ds generalizing s is with
  | nil =>
    obtain rfl : is = [] := List.map_eq_nil_iff.1 keys
    obtain rfl := Option.some.inj entered
    exact ⟨rfl, rfl⟩
  | cons d ds ih =>
    obtain ⟨i, is, rfl, hi, keys⟩ := List.map_eq_cons_iff.1 keys
    obtain ⟨b₁, pushed, rest⟩ := Option.bind_eq_some_iff.1 entered
    have pressed := h.press (digits d List.mem_cons_self) hi pushed
    have takes : (s.withCommand b₁).TakesDigits :=
      ⟨h.commands, h.unselected, h.waiting,
        CommandBuilder.not_awaitingRegister_of_pushDigit? pushed, h.cursor⟩
    have led := ih takes (fun x hx => digits x (List.mem_cons_of_mem d hx)) keys rest
    refine ⟨?_, ?_⟩
    · rw [pressAll, pressed]
      exact led.last
    · rw [pressAll, pressed]
      exact led.actions

def prefixed (A : List Nat) : CommandBuilder :=
  { stage := if A = [] then .empty else .accumulatingCount, count := countOf A }

theorem prefixed_not_awaitingRegister (A : List Nat) : (prefixed A).isAwaitingRegister = false := by
  unfold CommandBuilder.isAwaitingRegister prefixed
  simp only
  split <;> rfl

theorem prefixed_leadsTo (h : s.Idle) (mode : s.editor.mode = .normal) (digits : Digits A)
    (keys : is.map Input.toKey = Key.digits A) : s.LeadsTo is [] (s.withCommand (prefixed A)) := by
  have takes : s.TakesDigits :=
    ⟨by rw [mode]; rfl, by rw [mode]; rfl, h.waiting, by rw [h.command]; rfl, h.cursor⟩
  refine takes.leadsTo digits.small keys ?_
  have fresh : ({} : CommandBuilder).count = countOf [] := rfl
  rw [h.command, CommandBuilder.enterAll?_digits fresh digits.small fun _ => digits.lead]
  simp [prefixed]

def counted (o : Operator) (A B : List Nat) : CommandBuilder :=
  { stage := .awaitingArgument, count := countOf B, operatorCount := countOf A, operator := some o }

theorem counted_leadsTo (keymap : s.keymap = .standard) (h : s.Idle)
    (mode : s.editor.mode = .normal) (before : Digits A) (after : Digits B)
    (keys : is.map Input.toKey = Key.digits A ++ Key.plain o.key :: Key.digits B) :
    s.LeadsTo is [] (s.pendingWith (counted o A B)) := by
  obtain ⟨is₁, rest, rfl, keys₁, keys⟩ := List.map_eq_append_iff.1 keys
  obtain ⟨i, is₂, rfl, hi, keys₂⟩ := List.map_eq_cons_iff.1 keys
  have typed := prefixed_leadsTo h mode before keys₁
  have pends : (s.withCommand (prefixed A)).LeadsTo [i] [] (s.pendingWith (counted o A [])) :=
    entered_leadsTo keymap mode h.waiting rfl (prefixed_not_awaitingRegister A) h.cursor hi
  have counts :
      (s.pendingWith (counted o A [])).LeadsTo is₂ [] (s.pendingWith (counted o A B)) := by
    have takes : (s.pendingWith (counted o A [])).TakesDigits := ⟨rfl, rfl, rfl, rfl, h.cursor⟩
    refine takes.leadsTo after.small keys₂ ?_
    have fresh : (counted o A []).count = countOf [] := rfl
    have entered := CommandBuilder.enterAll?_digits fresh after.small fun _ => after.lead
    exact entered.trans (by simp [counted])
  exact typed.trans (pends.trans counts)

def completed (s : Session) (o : Operator) (count : Option Nat) (a : Argument) : Turn :=
  (s.pendingWith {}).opening.runCommand s.text
    { count := max (count.getD 1) 1, typed := count, register := none, operator := some o
      argument := a }

theorem argument_leadsTo_completed {f : Handler} {n : Nat} {a : Argument} {ks : List Key}
    (keymap : s.keymap = .standard) (h : s.Idle) (mode : s.editor.mode = .normal)
    (before : Digits A) (after : Digits B)
    (spelled : Keymap.standard.Spells (.operatorPending .normal) f n ks)
    (budget : n ≤ expansionLimit) (completes : f.Completes o a)
    (keys : is.map Input.toKey = (Key.digits A ++ Key.plain o.key :: Key.digits B) ++ ks) :
    let t := s.completed o (productOf ([A, B].filter (· ≠ []))) a
    s.LeadsTo is t.actions.toList (s.accept t.response) := by
  obtain ⟨is₁, is₂, rfl, keys₁, keys₂⟩ := List.map_eq_append_iff.1 keys
  have typed := counted_leadsTo keymap h mode before after keys₁
  rw [← keys₂] at spelled
  have ran := leadsTo_of_spells (s := s.pendingWith (counted o A B)) keymap spelled budget rfl rfl
    h.cursor
  have handled : (s.pendingWith (counted o A B)).handled f =
      s.completed o (productOf ([A, B].filter (· ≠ []))) a := by
    refine (Turn.run_of_pending (o := o) rfl rfl completes s.text).trans ?_
    have total : (counted o A B).totalCount = productOf ([A, B].filter (· ≠ [])) :=
      CommandBuilder.totalCount_of_counts rfl rfl before.unpadded after.unpadded
    rw [completed, ← total]
    rfl
  rw [handled] at ran
  exact typed.trans ran

/-- It does not matter where a count is typed. Two numbers, one before the operator and one after
it, do what their product does before the operator, and what it does after it: the host is asked
for the same, and the sessions end alike. The product is cut to the greatest count. -/
theorem counts_multiply_anywhere (keymap : s.keymap = .standard) (h : s.Idle)
    (mode : s.editor.mode = .normal) (o : Operator) (hA : Numeral A) (hB : Numeral B)
    {ks : List Key} (hks : ks ∈ argumentKeys o) {both before after : List Input} :
    let N := digitsOf (min maxCount (decimal A * decimal B))
    both.map Input.toKey = Key.digits A ++ [Key.plain o.key] ++ Key.digits B ++ ks →
    before.map Input.toKey = Key.digits N ++ [Key.plain o.key] ++ ks →
    after.map Input.toKey = [Key.plain o.key] ++ Key.digits N ++ ks →
      ∃ s' as, s.LeadsTo both as s' ∧ s.LeadsTo before as s' ∧ s.LeadsTo after as s' := by
  intro N keys keys' keys''
  obtain ⟨f, n, a, spelled, budget, completes⟩ := exists_spells_argument hks
  have leads {A B : List Nat} (hA : Digits A) (hB : Digits B) (is : List Input)
      (keys : is.map Input.toKey = Key.digits A ++ Key.plain o.key :: Key.digits B ++ ks) :=
    argument_leadsTo_completed keymap h mode hA hB spelled budget completes keys
  have pos : 0 < min maxCount (decimal A * decimal B) :=
    Nat.lt_min.2 ⟨by decide, Nat.mul_pos hA.decimal_pos hB.decimal_pos⟩
  have hN : Numeral N := numeral_digitsOf pos
  have first := leads hA.toDigits hB.toDigits both (by simpa using keys)
  have second := leads hN.toDigits .nil before (by simpa [Key.digits] using keys')
  have third := leads .nil hN.toDigits after (by simpa [Key.digits] using keys'')
  have product : productOf [N] = productOf [A, B] := by
    have value : decimal N = min maxCount (decimal A * decimal B) := decimal_digitsOf _
    simp [productOf, value, Nat.min_comm]
  have one : productOf ([N, []].filter (· ≠ [])) = productOf ([A, B].filter (· ≠ [])) := by
    simpa [hN.ne_nil, hA.ne_nil, hB.ne_nil] using product
  have other : productOf ([[], N].filter (· ≠ [])) = productOf ([A, B].filter (· ≠ [])) := by
    simpa [hN.ne_nil, hA.ne_nil, hB.ne_nil] using product
  rw [one] at second
  rw [other] at third
  exact ⟨_, _, first, second, third⟩

theorem counts_multiply_anywhere_line_number :
    let s : Session := { keymap := .standard, text := Text.ofString "a\nb\nc", cursor := 2 }
    let both := ['3', 'd', '4', 'G'].map Input.text
    let before := ['1', '2', 'd', 'G'].map Input.text
    let after := ['d', '1', '2', 'G'].map Input.text
    s.Idle ∧ Numeral [3] ∧ Numeral [4] ∧ Key.typing "G" ∈ argumentKeys .delete ∧
      (s.pressAll both).1 = (s.pressAll before).1 ∧ (s.pressAll both).1 = (s.pressAll after).1 ∧
      emitted (s.pressAll both).2 = emitted (s.pressAll after).2 := by
  intro s both before after
  have idle : s.Idle := ⟨rfl, rfl, by decide⟩
  have three : Numeral [3] := ⟨⟨by decide, by decide⟩, by decide⟩
  have four : Numeral [4] := ⟨⟨by decide, by decide⟩, by decide⟩
  have listed : Key.typing "G" ∈ argumentKeys .delete := by decide
  have twelve : digitsOf (min maxCount (decimal [3] * decimal [4])) = [1, 2] := by decide
  have keys : both.map Input.toKey =
      Key.digits [3] ++ [Key.plain 'd'] ++ Key.digits [4] ++ Key.typing "G" := rfl
  have keys' : before.map Input.toKey =
      Key.digits [1, 2] ++ [Key.plain 'd'] ++ Key.typing "G" := rfl
  have keys'' : after.map Input.toKey =
      [Key.plain 'd'] ++ Key.digits [1, 2] ++ Key.typing "G" := rfl
  rw [← twelve] at keys' keys''
  obtain ⟨s', as, first, second, third⟩ :=
    counts_multiply_anywhere rfl idle rfl .delete three four listed keys keys' keys''
  refine ⟨idle, three, four, listed, ?_, ?_, ?_⟩
  · rw [first.last, second.last]
  · rw [first.last, third.last]
  · rw [first.actions, third.actions]

end Session

end ModalEditing
