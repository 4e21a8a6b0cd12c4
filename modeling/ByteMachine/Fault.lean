import ByteMachine.Isa.Opcode
import ByteMachine.Text.Digits
import ByteMachine.Text.Quoted

/-! Everything that can go wrong while a program is loaded or run, what is said about it, and the
exit code it leads to. -/

namespace ByteMachine

inductive Space where
  | memory | register
  deriving DecidableEq, Repr

def Space.name : Space → String
  | .memory => "memory"
  | .register => "register"

inductive Fault where
  | programNotFound (path : String)
  | io (reason : String)
  | invalidLine (number : Nat) (text : String)
  | programTooLarge (size : Nat)
  | outOfBounds (space : Space) (index : UInt64)
  | unknownOpcode (byte : UInt8) (pc : UInt64)
  | divisionByZero
  | moduloByZero
  | notArithmetic (opcode : Opcode)
  | traceMismatch (expected actual : String)
  | traceLogNotFound (path : String)
  deriving DecidableEq, Repr

namespace Fault

def message : Fault → String
  | .programNotFound path => "program not found: " ++ path
  | .io reason => "i/o error: " ++ reason
  | .invalidLine number text =>
    "invalid instruction on line " ++ Text.decimal number ++ ": " ++ Text.quoted text.toList
  | .programTooLarge size =>
    "program is " ++ Text.decimal size ++ " bytes which does not fit in memory"
  | .outOfBounds space index =>
    space.name ++ " index " ++ Text.hexLiteral index.toNat ++ " is out of bounds"
  | .unknownOpcode byte pc =>
    "unknown opcode " ++ Text.hexPairLiteral byte.toNat ++ " at " ++ Text.hexPairLiteral pc.toNat
  | .divisionByZero => "division by zero"
  | .moduloByZero => "modulo by zero"
  | .notArithmetic opcode => "unsupported ALU operation: " ++ opcode.mnemonic
  | .traceMismatch expected actual =>
    "mismatched trace frames:\n    expected: " ++ expected ++ "\n    actual:   " ++ actual
  | .traceLogNotFound path => "trace log not found: " ++ path

def exitCode : Fault → UInt8
  | .io _ => 1
  | .invalidLine .. | .programTooLarge _ => 2
  | .programNotFound _ => 3
  | .traceLogNotFound _ => 4
  | .outOfBounds .. | .unknownOpcode .. | .divisionByZero | .moduloByZero
  | .notArithmetic _ | .traceMismatch .. => 101

def isRuntime (fault : Fault) : Bool :=
  fault.exitCode == 101

end Fault

section Outcomes

variable {ε α : Type}

instance outcomeDecidableEq [DecidableEq ε] [DecidableEq α] : DecidableEq (Except ε α)
  | .ok a, .ok b => decidable_of_iff (a = b) (by rw [Except.ok.injEq])
  | .error a, .error b => decidable_of_iff (a = b) (by rw [Except.error.injEq])
  | .ok _, .error _ => isFalse nofun
  | .error _, .ok _ => isFalse nofun

instance outcomeDecidableForall (outcome : Except ε α) (p : α → Prop) [DecidablePred p] :
    Decidable (∀ value, outcome = .ok value → p value) :=
  match outcome with
  | .ok value => decidable_of_iff (p value) ⟨fun h _ same => Except.ok.inj same ▸ h, (· _ rfl)⟩
  | .error _ => isTrue nofun

instance outcomeDecidableExists (outcome : Except ε α) (p : α → Prop) [DecidablePred p] :
    Decidable (∃ value, outcome = .ok value ∧ p value) :=
  match outcome with
  | .ok value => decidable_of_iff (p value) ⟨fun h => ⟨value, rfl, h⟩,
      fun ⟨_, same, h⟩ => Except.ok.inj same ▸ h⟩
  | .error _ => isFalse nofun

end Outcomes
end ByteMachine
