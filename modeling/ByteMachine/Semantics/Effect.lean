import ByteMachine.Isa.Instruction
import ByteMachine.Semantics.Arithmetic
import ByteMachine.State.Console
import ByteMachine.State.Memory

/-! What one instruction does when nothing goes wrong, worked out at once: the state after it and
what it prints. -/

namespace ByteMachine

structure Core where
  processor : Processor := {}
  memory : Memory := .blank
  deriving DecidableEq

inductive Effect where
  | halt
  | proceed (core : Core) (printed : Option String)

inductive Status where
  | running | halted
  deriving DecidableEq, Repr

namespace Instruction

def fetch (memory : Memory) (address : UInt64) : Except Fault Instruction := do
  return ⟨← memory.read address, ← memory.read (address + 1), ← memory.read (address + 2)⟩

def opcode (instruction : Instruction) (pc : UInt64) : Except Fault Opcode :=
  match instruction.opcode? with
  | some opcode => .ok opcode
  | none => .error (.unknownOpcode instruction.code pc)

end Instruction

namespace Core

def advance (core : Core) (opcode : Opcode) : Core :=
  { core with processor.pc := core.processor.pc + opcode.width }

def jump (core : Core) (target : UInt8) : Core :=
  { core with processor.pc := target.toUInt64 }

def push (core : Core) (value : UInt8) : Core :=
  let processor := core.processor.lowerStack
  { processor, memory := core.memory.set processor.stackTop value }

def top (core : Core) : UInt8 :=
  core.memory.get core.processor.stackTop

def drop (core : Core) : Core :=
  { core with processor := core.processor.raiseStack }

def next (core : Core) (opcode : Opcode) (printed : Option String := none) : Effect :=
  .proceed (core.advance opcode) printed

def goto (core : Core) (target : UInt8) : Effect :=
  .proceed (core.jump target) none

end Core

/-- A pushed register is read, and a called one followed, after the stack has moved; a popped one
is written before. -/
def Opcode.effect (opcode : Opcode) (first second : UInt8) (core : Core) : Except Fault Effect := do
  match opcode with
  | .nop => return core.next opcode
  | .hlt => return .halt
  | .ldi =>
    let target ← Register.ofByte first
    return { core with processor := core.processor.set target second }.next opcode
  | .ld =>
    let source ← Register.ofByte second
    let value := core.memory.get (core.processor.get source)
    let target ← Register.ofByte first
    return { core with processor := core.processor.set target value }.next opcode
  | .st => return { core with memory := core.memory.set first second }.next opcode
  | .prn =>
    let source ← Register.ofByte first
    return core.next opcode (Text.decimal (core.processor.get source).toNat ++ "\n")
  | .pra =>
    let source ← Register.ofByte first
    return core.next opcode (String.singleton (Char.ofUInt8 (core.processor.get source)))
  | .push =>
    let source ← Register.ofByte first
    return (core.push (core.processor.lowerStack.get source)).next opcode
  | .pop =>
    let target ← Register.ofByte first
    return { core with processor := core.processor.set target core.top }.drop.next opcode
  | .call =>
    let source ← Register.ofByte first
    let back := (core.processor.pc + opcode.width).toUInt8
    return (core.push back).goto (core.processor.lowerStack.get source)
  | .ret => return core.drop.goto core.top
  | .jmp =>
    let source ← Register.ofByte first
    return core.goto (core.processor.get source)
  | .branch condition =>
    if core.processor.satisfies condition then
      let source ← Register.ofByte first
      return core.goto (core.processor.get source)
    else return core.next opcode
  | .unary _ | .binary _ | .cmp =>
    let processor ← core.processor.calculate opcode first second
    return { core with processor }.next opcode

namespace Instruction

def effect (instruction : Instruction) (core : Core) : Except Fault Effect := do
  let opcode ← instruction.opcode core.processor.pc
  opcode.effect instruction.first instruction.second core

end Instruction
end ByteMachine
