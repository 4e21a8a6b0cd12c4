import ByteMachine.Semantics.Effect

/-! How an instruction runs: one access after the other to registers, cells and console, each
taking hold at once. A fault ends the instruction where it is met, and nothing is taken back. -/

namespace ByteMachine

structure Hardware where
  core : Core := {}
  console : Console := {}

abbrev Action := EStateM Fault Hardware

namespace Action

def processor : Action Processor :=
  return (← get).core.processor

def setProcessor (processor : Processor) : Action Unit :=
  modify fun hardware => { hardware with core.processor := processor }

def readRegister (operand : UInt8) : Action UInt8 := do
  let source ← liftExcept (Register.ofByte operand)
  return (← processor).get source

def writeRegister (operand value : UInt8) : Action Unit := do
  let target ← liftExcept (Register.ofByte operand)
  setProcessor ((← processor).set target value)

def readCell (address : UInt64) : Action UInt8 := do
  liftExcept ((← get).core.memory.read address)

def writeCell (address : UInt64) (value : UInt8) : Action Unit := do
  let memory ← liftExcept ((← get).core.memory.write address value)
  modify fun hardware => { hardware with core.memory := memory }

def lowerStack : Action UInt8 := do
  setProcessor (← processor).lowerStack
  return (← processor).stackTop

def raiseStack : Action UInt8 := do
  let top := (← processor).stackTop
  setProcessor (← processor).raiseStack
  return top

def jump (target : UInt8) : Action Status := do
  modify fun hardware => { hardware with core := hardware.core.jump target }
  return .running

def next (opcode : Opcode) : Action Status := do
  modify fun hardware => { hardware with core := hardware.core.advance opcode }
  return .running

def print (text : String) : Action Unit := fun hardware =>
  match hardware.console.write text.toUTF8 with
  | (.ok (), console) => .ok () { hardware with console }
  | (.error fault, console) => .error fault { hardware with console }

end Action

def Opcode.perform (opcode : Opcode) (first second : UInt8) : Action Status := do
  match opcode with
  | .nop => Action.next opcode
  | .hlt => return .halted
  | .ldi =>
    Action.writeRegister first second
    Action.next opcode
  | .ld =>
    let cell ← Action.readRegister second
    let value ← Action.readCell cell.toUInt64
    Action.writeRegister first value
    Action.next opcode
  | .st =>
    Action.writeCell first.toUInt64 second
    Action.next opcode
  | .prn =>
    let value ← Action.readRegister first
    Action.print (Text.decimal value.toNat ++ "\n")
    Action.next opcode
  | .pra =>
    let value ← Action.readRegister first
    Action.print (String.singleton (Char.ofUInt8 value))
    Action.next opcode
  | .push =>
    let _ ← Action.readRegister first
    let top ← Action.lowerStack
    Action.writeCell top.toUInt64 (← Action.readRegister first)
    Action.next opcode
  | .pop =>
    let value ← Action.readCell (← Action.processor).stackTop.toUInt64
    Action.writeRegister first value
    let _ ← Action.raiseStack
    Action.next opcode
  | .call =>
    let _ ← Action.readRegister first
    let top ← Action.lowerStack
    let back := (← Action.processor).pc + opcode.width
    Action.writeCell top.toUInt64 back.toUInt8
    Action.jump (← Action.readRegister first)
  | .ret =>
    let status ← Action.jump (← Action.readCell (← Action.processor).stackTop.toUInt64)
    let _ ← Action.raiseStack
    return status
  | .jmp => Action.jump (← Action.readRegister first)
  | .branch condition =>
    if (← Action.processor).satisfies condition then Action.jump (← Action.readRegister first)
    else Action.next opcode
  | .unary _ | .binary _ | .cmp =>
    Action.setProcessor (← liftExcept ((← Action.processor).calculate opcode first second))
    Action.next opcode

namespace Instruction

def perform (instruction : Instruction) : Action Status := do
  let opcode ← liftExcept (instruction.opcode (← Action.processor).pc)
  opcode.perform instruction.first instruction.second

def execute (instruction : Instruction) (core : Core) (console : Console) :
    Except Fault Status × Core × Console :=
  match instruction.perform.run { core, console } with
  | .ok status after => (.ok status, after.core, after.console)
  | .error fault after => (.error fault, after.core, after.console)

end Instruction
end ByteMachine
