import Mathlib
import ModalEditing.Proofs.BuilderCalls

/-! Counts as they are typed. The digits before the operator write one number and those after it
another one, and a register named between digits does not end a number. Each number is cut to the
greatest count digit by digit, which comes to the same as cutting it once, and so does cutting
their product. -/

namespace ModalEditing

def decimal (ds : List Nat) : Nat := Nat.ofDigits 10 ds.reverse

theorem decimal_concat (ds : List Nat) (d : Nat) : decimal (ds ++ [d]) = 10 * decimal ds + d := by
  rw [decimal, decimal, List.reverse_concat, Nat.ofDigits_cons, Nat.add_comm]

/-- The count that the digits come to, if there are any. -/
def countOf (ds : List Nat) : Option Nat :=
  if ds = [] then none else some (min (decimal ds) maxCount)

theorem countOf_of_ne_nil {ds : List Nat} (h : ds ≠ []) :
    countOf ds = some (min (decimal ds) maxCount) := if_neg h

theorem countOf_eq_none_iff {ds : List Nat} : countOf ds = none ↔ ds = [] := by
  by_cases h : ds = [] <;> simp [countOf, h]

def Unpadded (ds : List Nat) : Prop := ds ≠ [] → 0 < decimal ds

theorem Unpadded.concat {ds : List Nat} {d : Nat} (h : Unpadded ds) (lead : ds = [] → d ≠ 0) :
    Unpadded (ds ++ [d]) := by
  intro _
  rw [decimal_concat]
  by_cases first : ds = []
  · have := lead first
    omega
  · have := h first
    omega

/-- The product of the numbers, cut to the greatest count. -/
def productOf (numbers : List (List Nat)) : Option Nat :=
  if numbers = [] then none else some (min (numbers.map decimal).prod maxCount)

theorem productOf_pos {numbers : List (List Nat)} (h : ∀ ds ∈ numbers, 0 < decimal ds) :
    0 < (productOf numbers).getD 1 := by
  unfold productOf
  split
  · exact Nat.one_pos
  · have pos : 0 < (numbers.map decimal).prod := List.prod_pos (by simpa using h)
    exact Nat.lt_min.2 ⟨pos, by decide⟩

theorem min_mul_min {m n : Nat} (hm : 0 < m) (hn : 0 < n) (limit : Nat) :
    min (min m limit * min n limit) limit = min (m * n) limit := by
  rcases Nat.eq_zero_or_pos limit with rfl | pos
  · simp
  by_cases fits : m ≤ limit ∧ n ≤ limit
  · rw [Nat.min_eq_left fits.1, Nat.min_eq_left fits.2]
  · -- a factor that is cut brings both products to the limit
    have reaches : limit ≤ min m limit * min n limit := by
      rcases not_and_or.1 fits with large | large
      · rw [Nat.min_eq_right (by omega : limit ≤ m)]
        exact Nat.le_mul_of_pos_right limit (by omega)
      · rw [Nat.min_eq_right (by omega : limit ≤ n)]
        exact Nat.le_mul_of_pos_left limit (by omega)
    have larger : min m limit * min n limit ≤ m * n :=
      Nat.mul_le_mul (Nat.min_le_left m limit) (Nat.min_le_left n limit)
    rw [Nat.min_eq_right reaches, Nat.min_eq_right (Nat.le_trans reaches larger)]

namespace CommandBuilder

variable {b b' : CommandBuilder} {before ds : List Nat} {d : Nat}

theorem pushDigit?_of_count (h : b.count = countOf ds) (d : Nat) :
    b.pushDigit? d =
      if d > 9 ∨ d = 0 ∧ ds = [] then none
      else some
        { b with
          count := countOf (ds ++ [d])
          stage :=
            if b.stage = .awaitingArgument then .awaitingArgument else .accumulatingCount } := by
  have grown : min (min (b.count.getD 0 * 10) maxCount + d) maxCount =
      min (decimal (ds ++ [d])) maxCount := by
    rw [h, decimal_concat]
    by_cases first : ds = []
    · subst first
      simp [countOf, decimal]
    · rw [countOf_of_ne_nil first, Option.getD_some]
      omega
  have fresh : b.count = none ↔ ds = [] := by rw [h, countOf_eq_none_iff]
  unfold pushDigit?
  rw [grown, countOf_of_ne_nil (by simp : ds ++ [d] ≠ [])]
  simp only [fresh]

theorem totalCount_of_counts (hb : b.operatorCount = countOf before) (h : b.count = countOf ds)
    (unpadded : Unpadded before) (unpadded' : Unpadded ds) :
    b.totalCount = productOf ([before, ds].filter (· ≠ [])) := by
  unfold totalCount
  rw [hb, h]
  by_cases first : before = []
  · by_cases second : ds = []
    · simp [first, second, countOf, productOf]
    · simp [first, second, countOf, productOf]
  · by_cases second : ds = []
    · simp [first, second, countOf, productOf]
    · simp [first, second, countOf, productOf, min_mul_min (unpadded first) (unpadded' second)]

inductive Entry where
  | digit (d : Nat)
  | register (name : Char)
  | operator (o : Operator)
deriving DecidableEq

namespace Entry

def digit? : Entry → Option Nat
  | digit d => some d
  | register _ | operator _ => none

def isOperator : Entry → Bool
  | operator _ => true
  | digit _ | register _ => false

def enter? (b : CommandBuilder) : Entry → Option CommandBuilder
  | digit d => b.pushDigit? d
  | register name => b.startRegister?.bind fun b => (b.setRegister name).toOption
  | operator o =>
    match b.enterOperator o with
    | .ok (.waiting b) => some b
    | .ok (.complete _) | .error _ => none

/-- The digits typed, apart where one of the entries `ends` lies between them. -/
def segments (ends : Entry → Bool) (es : List Entry) : List (List Nat) :=
  (es.splitOnP ends).map (List.filterMap digit?)

def numbers (ends : Entry → Bool) (es : List Entry) : List (List Nat) :=
  (segments ends es).filter (· ≠ [])

theorem segments_cons (ends : Entry → Bool) (e : Entry) (es : List Entry) :
    segments ends (e :: es) =
      if ends e then [] :: segments ends es
      else (segments ends es).modifyHead (e.digit?.toList ++ ·) := by
  unfold segments
  rw [List.splitOnP_cons_eq_if_modifyHead]
  split
  · rfl
  · cases es.splitOnP ends with
    | nil => rfl
    | cons first rest => cases h : e.digit? <;> simp [h]

end Entry

def enterAll? (b : CommandBuilder) (es : List Entry) : Option CommandBuilder :=
  es.foldlM Entry.enter? b

structure Counted (b : CommandBuilder) (before ds : List Nat) : Prop where
  operatorCount : b.operatorCount = countOf before
  count : b.count = countOf ds
  first : b.operator = none → before = []
  unpadded : Unpadded before
  unpadded' : Unpadded ds

theorem counted_fresh : Counted {} [] [] where
  operatorCount := rfl
  count := rfl
  first _ := rfl
  unpadded empty := absurd rfl empty
  unpadded' empty := absurd rfl empty

theorem Counted.digit (h : b.Counted before ds) (pushed : b.pushDigit? d = some b') :
    b'.Counted before (ds ++ [d]) := by
  rw [pushDigit?_of_count h.count] at pushed
  split at pushed
  · contradiction
  · next fits =>
    obtain rfl := Option.some.inj pushed
    have lead : ds = [] → d ≠ 0 := fun first zero => fits (Or.inr ⟨zero, first⟩)
    exact ⟨h.operatorCount, rfl, h.first, h.unpadded, h.unpadded'.concat lead⟩

theorem Counted.register {name : Char} (h : b.Counted before ds)
    (named : (Entry.register name).enter? b = some b') : b'.Counted before ds := by
  obtain ⟨announced, started, named⟩ := Option.bind_eq_some_iff.1 named
  cases set : announced.setRegister name with
  | error f =>
    rw [set] at named
    contradiction
  | ok b₁ =>
    rw [set] at named
    obtain rfl := Option.some.inj named
    obtain ⟨_, rfl⟩ := eq_of_startRegister? started
    obtain rfl := eq_of_setRegister set
    exact ⟨h.operatorCount, h.count, h.first, h.unpadded, h.unpadded'⟩

theorem Counted.operator {o : Operator} (h : b.Counted before ds)
    (entered : (Entry.operator o).enter? b = some b') : before = [] ∧ b'.Counted ds [] := by
  cases waits : b.operator with
  | none =>
    rw [Entry.enter?, enterOperator_of_none waits] at entered
    obtain rfl := Option.some.inj entered
    refine ⟨h.first waits, h.count, rfl, ?_, h.unpadded', fun empty => absurd rfl empty⟩
    intro free
    contradiction
  | some p =>
    by_cases same : p = o
    · rw [same] at waits
      rw [Entry.enter?, enterOperator_of_same waits] at entered
      contradiction
    · rw [Entry.enter?, enterOperator_of_other waits same] at entered
      contradiction

theorem Counted.enterAll {es : List Entry} (h : b.Counted before ds)
    (entered : b.enterAll? es = some b') :
    ∃ before' ds', b'.Counted before' ds' ∧
      [before', ds'].filter (· ≠ []) =
        (before :: (Entry.segments Entry.isOperator es).modifyHead (ds ++ ·)).filter (· ≠ []) := by
  induction es generalizing b before ds with
  | nil =>
    obtain rfl := Option.some.inj entered
    refine ⟨before, ds, h, ?_⟩
    simp [Entry.segments]
  | cons e es ih =>
    obtain ⟨b₁, first, rest⟩ := Option.bind_eq_some_iff.1 entered
    rw [Entry.segments_cons]
    cases e with
    | digit d =>
      obtain ⟨before', ds', counted, numbers⟩ := ih (h.digit first) rest
      refine ⟨before', ds', counted, numbers.trans ?_⟩
      simp [Entry.isOperator, Entry.digit?, List.modifyHead_modifyHead, Function.comp_def]
    | register name =>
      obtain ⟨before', ds', counted, numbers⟩ := ih (h.register first) rest
      refine ⟨before', ds', counted, numbers.trans ?_⟩
      simp [Entry.isOperator, Entry.digit?, List.modifyHead_modifyHead, Function.comp_def]
    | operator o =>
      obtain ⟨none_before, counted⟩ := h.operator first
      obtain ⟨before', ds', counted, numbers⟩ := ih counted rest
      refine ⟨before', ds', counted, numbers.trans ?_⟩
      cases Entry.segments Entry.isOperator es <;> simp [Entry.isOperator, none_before]

theorem Counted.totalCount (h : b.Counted before ds) :
    b.totalCount = productOf ([before, ds].filter (· ≠ [])) :=
  totalCount_of_counts h.operatorCount h.count h.unpadded h.unpadded'

theorem Counted.totalCount_pos (h : b.Counted before ds) : 0 < b.totalCount.getD 1 := by
  rw [h.totalCount]
  refine productOf_pos fun number mem => ?_
  simp only [List.mem_filter, List.mem_cons, List.not_mem_nil, or_false, decide_eq_true_eq] at mem
  obtain ⟨rfl | rfl, typed⟩ := mem
  · exact h.unpadded typed
  · exact h.unpadded' typed

theorem exists_complete_of_perform {call : Call} {c : Command}
    (completes : (b.perform call).2 = .command c) : ∃ a, c = b.complete a := by
  cases call with
  | complete a => exact ⟨a, (Answer.command.inj completes).symm⟩
  | operator o =>
    cases waits : b.operator with
    | none =>
      rw [perform, enterOperator_of_none waits] at completes
      contradiction
    | some p =>
      by_cases same : p = o
      · rw [same] at waits
        rw [perform, enterOperator_of_same waits] at completes
        exact ⟨.wholeLines, (Answer.command.inj completes).symm⟩
      · rw [perform, enterOperator_of_other waits same] at completes
        contradiction
  | register name =>
    rw [perform] at completes
    split at completes <;> contradiction
  | _ => contradiction

/-- The pending count is the product of the number typed before the operator and the one typed
after it, and the command that is completed has it. -/
theorem pending_count_typed {es : List Entry} (entered : enterAll? {} es = some b) :
    b.pending.count = productOf (Entry.numbers Entry.isOperator es) ∧
      ∀ call c, (b.perform call).2 = .command c →
        c.typed = b.pending.count ∧ c.count = b.pending.count.getD 1 := by
  obtain ⟨before, ds, counted, numbers⟩ := counted_fresh.enterAll entered
  have typed : [before, ds].filter (· ≠ []) = Entry.numbers Entry.isOperator es := by
    rw [numbers, Entry.numbers]
    cases Entry.segments Entry.isOperator es <;> simp
  refine ⟨counted.totalCount.trans (congrArg productOf typed), ?_⟩
  intro call c completes
  obtain ⟨a, rfl⟩ := exists_complete_of_perform completes
  exact ⟨rfl, Nat.max_eq_left counted.totalCount_pos⟩

theorem pending_count_typed_before_and_after :
    let es : List Entry :=
      [.register 'a', .digit 2, .digit 0, .operator .delete, .digit 3]
    ∃ b, enterAll? {} es = some b ∧ b.pending.count = some 60 ∧
      (b.complete .wholeLines).count = 60 := by
  intro es
  let b : CommandBuilder :=
    { stage := .awaitingArgument, count := some 3, operatorCount := some 20, register := some 'a'
      operator := some .delete }
  have entered : enterAll? {} es = some b := by decide
  obtain ⟨product, completed⟩ := pending_count_typed entered
  have sixty : b.pending.count = some 60 := product.trans (by decide)
  refine ⟨b, entered, sixty, ?_⟩
  rw [(completed (.complete .wholeLines) _ rfl).2, sixty]
  rfl

theorem pending_count_across_register :
    let es : List Entry := [.digit 2, .register 'a', .digit 3]
    ∃ b, enterAll? {} es = some b ∧ b.pending.count = some 23 ∧
      productOf (Entry.numbers (fun e => e.digit?.isNone) es) = some 6 := by
  decide

end CommandBuilder

end ModalEditing
