import ByteMachine.Isa.Opcode
import ByteMachine.Text.Digits

/-! An instruction as it lies in memory, three bytes whatever its opcode, and its assembly text. -/

namespace ByteMachine

structure Instruction where
  code : UInt8
  first : UInt8
  second : UInt8
  deriving DecidableEq, Repr

namespace Instruction

def opcode? (instruction : Instruction) : Option Opcode :=
  Opcode.ofByte? instruction.code

def registerOperand (operand : UInt8) : String :=
  "R" ++ Text.decimal operand.toNat

def literalOperand (operand : UInt8) : String :=
  Text.hexPairLiteral operand.toNat

def operands (opcode : Opcode) (first second : UInt8) : List String :=
  match opcode with
  | .nop | .hlt | .ret => []
  | .ldi => [registerOperand first, literalOperand second]
  | .st => [literalOperand first, literalOperand second]
  | .ld | .binary _ | .cmp => [registerOperand first, registerOperand second]
  | .push | .pop | .prn | .pra | .call | .jmp | .branch _ | .unary _ => [registerOperand first]

def disassemble (instruction : Instruction) : String :=
  match instruction.opcode? with
  | none => ".byte " ++ literalOperand instruction.code
  | some opcode =>
    match operands opcode instruction.first instruction.second with
    | [] => opcode.mnemonic
    | shown => opcode.mnemonic ++ " " ++ ",".intercalate shown

end Instruction
end ByteMachine
