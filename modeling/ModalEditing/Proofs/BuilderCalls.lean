import ModalEditing.Command.Builder

/-! The calls of a command builder. Whether a builder is empty is told from its stage and its
register alone. That is enough, whatever calls came before: a count goes with a stage of its own,
and an operator goes with one too or, where a register has been named after it, with that
register. -/

namespace ModalEditing

namespace CommandBuilder

variable {b b' : CommandBuilder} {call : Call}

theorem isEmpty_iff : b.isEmpty ↔ b.stage = .empty ∧ b.register = none := by
  simp [isEmpty]

theorem exists_eq_of_pushDigit? {d : Nat} (pushed : b.pushDigit? d = some b') :
    ∃ n, b' =
      { b with
        count := some n
        stage := if b.stage = .awaitingArgument then .awaitingArgument else .accumulatingCount } := by
  unfold pushDigit? at pushed
  split at pushed
  · contradiction
  · exact ⟨_, (Option.some.inj pushed).symm⟩

theorem eq_of_startRegister? (started : b.startRegister? = some b') :
    b.operator = none ∧ b' = { b with stage := .awaitingRegister } := by
  unfold startRegister? at started
  split at started
  · contradiction
  · next free =>
    rw [not_or, Option.not_isSome_iff_eq_none] at free
    exact ⟨free.1, (Option.some.inj started).symm⟩

theorem eq_of_setRegister {c : Char} (named : b.setRegister c = .ok b') :
    b' =
      { b with
        register := some c
        stage := if b.count.isSome then .accumulatingCount else .empty } := by
  unfold setRegister at named
  split at named
  · exact (Except.ok.inj named).symm
  · contradiction

def waitingFor (b : CommandBuilder) (o : Operator) : CommandBuilder :=
  { b with operator := some o, operatorCount := b.count, count := none, stage := .awaitingArgument }

theorem enterOperator_of_none (free : b.operator = none) (o : Operator) :
    b.enterOperator o = .ok (.waiting (b.waitingFor o)) := by
  rw [enterOperator, free]
  rfl

theorem enterOperator_of_same {o : Operator} (waits : b.operator = some o) :
    b.enterOperator o = .ok (.complete (b.complete .wholeLines)) := by
  rw [enterOperator, waits]
  exact if_pos rfl

theorem enterOperator_of_other {o p : Operator} (waits : b.operator = some p) (other : p ≠ o) :
    b.enterOperator o = .error (.operatorClash p o) := by
  rw [enterOperator, waits]
  exact if_neg other

theorem eq_of_enterOperator {o : Operator} (entered : b.enterOperator o = .ok (.waiting b')) :
    b.operator = none ∧ b' = b.waitingFor o := by
  unfold enterOperator at entered
  split at entered
  · next first => exact ⟨first, (OperatorEntry.waiting.inj (Except.ok.inj entered)).symm⟩
  · split at entered <;> simp at entered

/-- What a call that goes on with the command makes of the builder. -/
inductive Takes (b : CommandBuilder) : Call → CommandBuilder → Prop where
  | digit {d : Nat} {b' : CommandBuilder} (pushed : b.pushDigit? d = some b') : Takes b (.digit d) b'
  | startRegister {b' : CommandBuilder} (started : b.startRegister? = some b') :
      Takes b .startRegister b'
  | register {c : Char} {b' : CommandBuilder} (named : b.setRegister c = .ok b') :
      Takes b (.register c) b'
  | operator {o : Operator} {b' : CommandBuilder} (entered : b.enterOperator o = .ok (.waiting b')) :
      Takes b (.operator o) b'

theorem Takes.isEmpty_eq_false (takes : b.Takes call b') : b'.isEmpty = false := by
  rw [Bool.eq_false_iff, ne_eq, isEmpty_iff]
  rintro ⟨stage, register⟩
  -- the name of a register may lead back to the first stage, and leaves the register
  cases takes with
  | digit pushed =>
    obtain ⟨n, rfl⟩ := exists_eq_of_pushDigit? pushed
    split at stage <;> contradiction
  | startRegister started =>
    obtain ⟨_, rfl⟩ := eq_of_startRegister? started
    contradiction
  | register named =>
    obtain rfl := eq_of_setRegister named
    contradiction
  | operator entered =>
    obtain ⟨_, rfl⟩ := eq_of_enterOperator entered
    contradiction

structure Orderly (b : CommandBuilder) : Prop where
  count : b.stage = .empty → b.count = none
  operatorCount : b.operator = none → b.operatorCount = none

theorem orderly_empty : Orderly {} where
  count _ := rfl
  operatorCount _ := rfl

theorem Orderly.takes (h : b.Orderly) (takes : b.Takes call b') : b'.Orderly := by
  cases takes with
  | digit pushed =>
    obtain ⟨n, rfl⟩ := exists_eq_of_pushDigit? pushed
    refine ⟨?_, h.operatorCount⟩
    simp only
    split <;> simp
  | startRegister started =>
    obtain ⟨_, rfl⟩ := eq_of_startRegister? started
    exact ⟨by simp, h.operatorCount⟩
  | register named =>
    obtain rfl := eq_of_setRegister named
    refine ⟨?_, h.operatorCount⟩
    cases b.count <;> simp
  | operator entered =>
    obtain ⟨_, rfl⟩ := eq_of_enterOperator entered
    exact ⟨by simp [waitingFor], by simp [waitingFor]⟩

theorem Orderly.eq_empty (h : b.Orderly) (operator : b.operator = none) (empty : b.isEmpty) :
    b = {} := by
  obtain ⟨stage, register⟩ := isEmpty_iff.1 empty
  have count := h.count stage
  have operatorCount := h.operatorCount operator
  obtain ⟨_, _, _, _, _⟩ := b
  simp_all

/-- Besides, an operator goes with a stage, or with a register that was named after it. -/
structure Accounted (b : CommandBuilder) : Prop extends Orderly b where
  operator : b.stage = .empty → b.register = none → b.operator = none

theorem accounted_empty : Accounted {} where
  toOrderly := orderly_empty
  operator _ _ := rfl

theorem Accounted.takes (h : b.Accounted) (takes : b.Takes call b') : b'.Accounted where
  toOrderly := h.toOrderly.takes takes
  operator stage register := by
    -- a call that is taken leaves a stage or a register
    have filled := takes.isEmpty_eq_false
    rw [isEmpty_iff.2 ⟨stage, register⟩] at filled
    contradiction

theorem Accounted.isEmpty_iff_eq (h : b.Accounted) : b.isEmpty ↔ b = {} := by
  constructor
  · intro empty
    obtain ⟨stage, register⟩ := isEmpty_iff.1 empty
    exact h.eq_empty (h.operator stage register) empty
  · rintro rfl
    rfl

def Call.ends (b : CommandBuilder) : Call → Bool
  | .operator o => b.operator = some o
  | .complete _ | .takePrefix | .abort => true
  | .digit _ | .startRegister | .register _ => false

def Answer.isRefusal : Answer → Bool
  | .accepted yes => !yes
  | .failed _ => true
  | .done | .waiting | .command _ | .counted .. => false

/-- What becomes of a builder when it is called, and what it answers. -/
inductive Performed (b : CommandBuilder) (call : Call) : CommandBuilder × Answer → Prop where
  | ended {a : Answer} (ends : call.ends b) (fits : a.isRefusal = false) : Performed b call ({}, a)
  | refused {a : Answer} (goesOn : call.ends b = false) (refusal : a.isRefusal) :
      Performed b call (b, a)
  | taken {b' : CommandBuilder} {a : Answer} (goesOn : call.ends b = false)
      (fits : a.isRefusal = false) (takes : b.Takes call b') : Performed b call (b', a)

theorem performed (b : CommandBuilder) (call : Call) : b.Performed call (b.perform call) := by
  cases call with
  | digit d =>
    rw [perform]
    cases pushed : b.pushDigit? d with
    | none => exact .refused rfl rfl
    | some b' => exact .taken rfl rfl (.digit pushed)
  | startRegister =>
    rw [perform]
    cases started : b.startRegister? with
    | none => exact .refused rfl rfl
    | some b' => exact .taken rfl rfl (.startRegister started)
  | register c =>
    rw [perform]
    cases named : b.setRegister c with
    | error f => exact .refused rfl rfl
    | ok b' => exact .taken rfl rfl (.register named)
  | operator o =>
    cases waits : b.operator with
    | none =>
      have entered := enterOperator_of_none waits o
      rw [perform, entered]
      exact .taken (by simp [Call.ends, waits]) rfl (.operator entered)
    | some p =>
      by_cases same : p = o
      · rw [same] at waits
        rw [perform, enterOperator_of_same waits]
        exact .ended (by simp [Call.ends, waits]) rfl
      · rw [perform, enterOperator_of_other waits same]
        exact .refused (by simp [Call.ends, waits, same]) rfl
  | complete a => exact .ended rfl rfl
  | takePrefix => exact .ended rfl rfl
  | abort => exact .ended rfl rfl

theorem perform_of_ends (ends : call.ends b) : (b.perform call).1 = {} := by
  have performed := b.performed call
  generalize b.perform call = r at performed
  cases performed with
  | ended => rfl
  | refused goesOn => simp [goesOn] at ends
  | taken goesOn => simp [goesOn] at ends

theorem perform_of_refused (refusal : (b.perform call).2.isRefusal) : (b.perform call).1 = b := by
  have performed := b.performed call
  generalize b.perform call = r at performed refusal
  cases performed with
  | ended ends fits => simp [fits] at refusal
  | refused => rfl
  | taken goesOn fits => simp [fits] at refusal

theorem ends_or_refused_of_isEmpty (empty : (b.perform call).1.isEmpty) :
    call.ends b ∨ (b.perform call).2.isRefusal ∧ b.isEmpty := by
  have performed := b.performed call
  generalize b.perform call = r at performed empty
  cases performed with
  | ended ends => exact Or.inl ends
  | refused goesOn refusal => exact Or.inr ⟨refusal, empty⟩
  | taken goesOn fits takes => simp [takes.isEmpty_eq_false] at empty

theorem Accounted.perform (h : b.Accounted) (call : Call) : (b.perform call).1.Accounted := by
  have performed := b.performed call
  generalize b.perform call = r at performed
  cases performed with
  | ended => exact accounted_empty
  | refused => exact h
  | taken goesOn fits takes => exact h.takes takes

def performAll (b : CommandBuilder) (calls : List Call) : CommandBuilder :=
  calls.foldl (fun b call => (b.perform call).1) b

theorem Accounted.performAll (h : b.Accounted) (calls : List Call) :
    (b.performAll calls).Accounted := by
  induction calls generalizing b with
  | nil => exact h
  | cons call calls ih => exact ih (h.perform call)

/-- After any calls a builder looks empty exactly when it is a fresh one. A call that ends a
command leaves a fresh builder and a refused call leaves the builder as it was; after no other
call does it look empty. -/
theorem empty_holds_nothing (calls : List Call) :
    let b : CommandBuilder := performAll {} calls
    (b.isEmpty ↔ b = {}) ∧
      ∀ call,
        (call.ends b → (b.perform call).1 = {}) ∧
          ((b.perform call).2.isRefusal → (b.perform call).1 = b) ∧
          ((b.perform call).1.isEmpty → call.ends b ∨ (b.perform call).2.isRefusal ∧ b.isEmpty) := by
  intro b
  have accounted : b.Accounted := accounted_empty.performAll calls
  refine ⟨accounted.isEmpty_iff_eq, fun call => ⟨?_, ?_, ?_⟩⟩
  · exact perform_of_ends
  · exact perform_of_refused
  · exact ends_or_refused_of_isEmpty

theorem empty_holds_nothing_named_late :
    let b : CommandBuilder := performAll {} [.digit 2, .operator .delete, .register 'a']
    b.stage = .empty ∧ b.operator = some .delete ∧ b.totalCount = some 2 ∧ b.isEmpty = false ∧
      (b.perform (.operator .change)).2.isRefusal ∧ (b.perform (.operator .change)).1 = b ∧
      Call.ends b (.operator .delete) ∧ (b.perform (.operator .delete)).1 = {} ∧
      (b.perform .abort).1.isEmpty ∧ Call.ends b .abort := by
  intro b
  have holds := (empty_holds_nothing [.digit 2, .operator .delete, .register 'a']).2
  have refusal : (b.perform (.operator .change)).2.isRefusal := by decide
  have ends : Call.ends b (.operator .delete) := by decide
  have empty : (b.perform .abort).1.isEmpty := by decide
  have kept := (holds (.operator .change)).2.1 refusal
  have ended := (holds (.operator .delete)).1 ends
  have dropped := (holds .abort).2.2 empty
  exact ⟨by decide, by decide, by decide, by decide, refusal, kept, ends, ended, empty,
    dropped.resolve_right (by decide)⟩

end CommandBuilder

end ModalEditing
