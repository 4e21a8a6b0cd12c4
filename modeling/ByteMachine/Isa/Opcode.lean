/-! The instruction set: thirty-two opcodes, the byte and the mnemonic of each, and the number of
bytes an instruction takes. -/

namespace ByteMachine

inductive Unary where
  | inc | dec | not
  deriving DecidableEq, Repr

inductive Binary where
  | add | sub | mul | div | mod | and | or | xor | shl | shr
  deriving DecidableEq, Repr

inductive Condition where
  | equal | notEqual | greater | less | lessOrEqual | greaterOrEqual
  deriving DecidableEq, Repr

inductive Opcode where
  | nop | hlt | ret
  | push | pop | prn | pra
  | call | jmp
  | branch (condition : Condition)
  | unary (operation : Unary)
  | ldi | ld | st
  | binary (operation : Binary)
  | cmp
  deriving DecidableEq, Repr

namespace Opcode

def all : List Opcode :=
  [.nop, .hlt, .ret, .push, .pop, .prn, .pra, .call, .jmp,
    .branch .equal, .branch .notEqual, .branch .greater, .branch .less,
    .branch .lessOrEqual, .branch .greaterOrEqual,
    .unary .inc, .unary .dec, .unary .not, .ldi, .ld, .st,
    .binary .add, .binary .sub, .binary .mul, .binary .div, .binary .mod, .cmp,
    .binary .and, .binary .or, .binary .xor, .binary .shl, .binary .shr]

def toByte : Opcode → UInt8
  | .nop => 0x00
  | .hlt => 0x01
  | .ret => 0x11
  | .push => 0x45
  | .pop => 0x46
  | .prn => 0x47
  | .pra => 0x48
  | .call => 0x50
  | .jmp => 0x54
  | .branch .equal => 0x55
  | .branch .notEqual => 0x56
  | .branch .greater => 0x57
  | .branch .less => 0x58
  | .branch .lessOrEqual => 0x59
  | .branch .greaterOrEqual => 0x5A
  | .unary .inc => 0x65
  | .unary .dec => 0x66
  | .unary .not => 0x69
  | .ldi => 0x82
  | .ld => 0x83
  | .st => 0x84
  | .binary .add => 0xA0
  | .binary .sub => 0xA1
  | .binary .mul => 0xA2
  | .binary .div => 0xA3
  | .binary .mod => 0xA4
  | .cmp => 0xA7
  | .binary .and => 0xA8
  | .binary .or => 0xAA
  | .binary .xor => 0xAB
  | .binary .shl => 0xAC
  | .binary .shr => 0xAD

def mnemonic : Opcode → String
  | .nop => "NOP"
  | .hlt => "HLT"
  | .ret => "RET"
  | .push => "PUSH"
  | .pop => "POP"
  | .prn => "PRN"
  | .pra => "PRA"
  | .call => "CALL"
  | .jmp => "JMP"
  | .branch .equal => "JEQ"
  | .branch .notEqual => "JNE"
  | .branch .greater => "JGT"
  | .branch .less => "JLT"
  | .branch .lessOrEqual => "JLE"
  | .branch .greaterOrEqual => "JGE"
  | .unary .inc => "INC"
  | .unary .dec => "DEC"
  | .unary .not => "NOT"
  | .ldi => "LDI"
  | .ld => "LD"
  | .st => "ST"
  | .binary .add => "ADD"
  | .binary .sub => "SUB"
  | .binary .mul => "MUL"
  | .binary .div => "DIV"
  | .binary .mod => "MOD"
  | .cmp => "CMP"
  | .binary .and => "AND"
  | .binary .or => "OR"
  | .binary .xor => "XOR"
  | .binary .shl => "SHL"
  | .binary .shr => "SHR"

/-- The opcode byte included. Unary operations keep room for a second operand. -/
def width : Opcode → UInt64
  | .nop | .hlt | .ret => 1
  | .push | .pop | .prn | .pra | .call | .jmp | .branch _ => 2
  | .unary _ | .ldi | .ld | .st | .binary _ | .cmp => 3

def isArithmetic : Opcode → Bool
  | .unary _ | .binary _ | .cmp => true
  | _ => false

def ofByte? (byte : UInt8) : Option Opcode :=
  all.find? fun opcode => opcode.toByte == byte

theorem mem_all (opcode : Opcode) : opcode ∈ all := by
  cases opcode with
  | branch c => cases c <;> decide
  | unary u => cases u <;> decide
  | binary b => cases b <;> decide
  | _ => decide

theorem ofByte?_toByte (opcode : Opcode) : ofByte? opcode.toByte = some opcode := by
  have h : ∀ opcode ∈ all, ofByte? opcode.toByte = some opcode := by decide
  exact h opcode (mem_all opcode)

theorem toByte_of_ofByte? {byte : UInt8} {opcode : Opcode} (h : ofByte? byte = some opcode) :
    opcode.toByte = byte := by
  simpa only [beq_iff_eq] using List.find?_some h

theorem toByte_injective {a b : Opcode} (h : a.toByte = b.toByte) : a = b :=
  Option.some.inj (by rw [← ofByte?_toByte a, h, ofByte?_toByte])

theorem isArithmetic_eq (opcode : Opcode) :
    opcode.isArithmetic = (opcode.toByte &&& 0x20 == 0x20) := by
  have h : ∀ opcode ∈ all, opcode.isArithmetic = (opcode.toByte &&& 0x20 == 0x20) := by decide
  exact h opcode (mem_all opcode)

end Opcode
end ByteMachine
