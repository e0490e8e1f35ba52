import ModalEditing.Command.Basic
import ModalEditing.Fault

/-! A command as it is typed: `["x] [count] [operator [count]] argument`. A count before
the operator and one after it multiply. A call that does not fit is refused and leaves the
builder as it was. -/

namespace ModalEditing

structure PartialCommand where
  count : Option Nat := none
  register : Option Char := none
  operator : Option Operator := none
  awaitsArgument : Bool := false
deriving DecidableEq, Inhabited

def PartialCommand.isEmpty (c : PartialCommand) : Bool := c == {}

namespace CommandBuilder

inductive Stage where
  | empty
  | awaitingRegister
  | accumulatingCount
  | awaitingArgument
deriving DecidableEq, Inhabited

end CommandBuilder

structure CommandBuilder where
  stage : CommandBuilder.Stage := .empty
  count : Option Nat := none
  operatorCount : Option Nat := none
  register : Option Char := none
  operator : Option Operator := none
deriving DecidableEq, Inhabited

def isRegisterName (c : Char) : Bool :=
  c.isAlphanum || ['\x22', '-', '*', '+', '_', '/', '.'].contains c

inductive OperatorEntry where
  | waiting (b : CommandBuilder)
  | complete (c : Command)

namespace CommandBuilder

def isEmpty (b : CommandBuilder) : Bool := b.stage == .empty && b.register.isNone

def isAwaitingRegister (b : CommandBuilder) : Bool := b.stage == .awaitingRegister

def totalCount (b : CommandBuilder) : Option Nat :=
  match b.operatorCount, b.count with
  | none, none => none
  | m, n => some (min (m.getD 1 * n.getD 1) maxCount)

def pending (b : CommandBuilder) : PartialCommand where
  count := b.totalCount
  register := b.register
  operator := b.operator
  awaitsArgument := b.stage == .awaitingArgument

/-- Adds a digit to the count. A zero that would lead is refused: it is a motion. -/
def pushDigit? (b : CommandBuilder) (d : Nat) : Option CommandBuilder :=
  if d > 9 ∨ (d = 0 ∧ b.count = none) then none
  else some
    { b with
      count := some (min (min (b.count.getD 0 * 10) maxCount + d) maxCount)
      stage := if b.stage = .awaitingArgument then .awaitingArgument else .accumulatingCount }

/-- Announces a register name. It has to come before the operator. -/
def startRegister? (b : CommandBuilder) : Option CommandBuilder :=
  if b.operator.isSome ∨ b.stage = .awaitingRegister then none
  else some { b with stage := .awaitingRegister }

def setRegister (b : CommandBuilder) (c : Char) : Except Fault CommandBuilder :=
  if isRegisterName c then
    .ok { b with
      register := some c
      stage := if b.count.isSome then .accumulatingCount else .empty }
  else .error (.registerName c)

def complete (b : CommandBuilder) (a : Argument) : Command where
  count := max (b.totalCount.getD 1) 1
  typed := b.totalCount
  register := b.register
  operator := b.operator
  argument := a

def enterOperator (b : CommandBuilder) (o : Operator) : Except Fault OperatorEntry :=
  match b.operator with
  | none =>
    .ok (.waiting
      { b with operator := some o, operatorCount := b.count, count := none,
               stage := .awaitingArgument })
  | some p => if p = o then .ok (.complete (b.complete .wholeLines)) else .error (.operatorClash p o)

inductive Call where
  | digit (d : Nat)
  | startRegister
  | register (c : Char)
  | operator (o : Operator)
  | complete (a : Argument)
  | takePrefix
  | abort

inductive Answer where
  | accepted (yes : Bool)
  | done
  | waiting
  | failed (f : Fault)
  | command (c : Command)
  | counted (count : Option Nat) (register : Option Char)

def perform (b : CommandBuilder) : Call → CommandBuilder × Answer
  | .digit d => ((b.pushDigit? d).getD b, .accepted (b.pushDigit? d).isSome)
  | .startRegister => (b.startRegister?.getD b, .accepted b.startRegister?.isSome)
  | .register c =>
    match b.setRegister c with
    | .ok b' => (b', .done)
    | .error f => (b, .failed f)
  | .operator o =>
    match b.enterOperator o with
    | .ok (.waiting b') => (b', .waiting)
    | .ok (.complete c) => ({}, .command c)
    | .error f => (b, .failed f)
  | .complete a => ({}, .command (b.complete a))
  | .takePrefix => ({}, .counted b.totalCount b.register)
  | .abort => ({}, .done)

end CommandBuilder

end ModalEditing
