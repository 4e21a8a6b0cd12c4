import ByteMachine.Fault

/-! The processor: a program counter, eight registers of which the last points at the top of the
stack, and the flags that the last comparison left behind. -/

namespace ByteMachine

abbrev Register := Fin 8

namespace Register

def stackPointer : Register := 7

def ofByte (byte : UInt8) : Except Fault Register :=
  if h : byte.toNat < 8 then .ok ⟨byte.toNat, h⟩
  else .error (.outOfBounds .register byte.toUInt64)

def initial : Vector UInt8 8 :=
  #v[0, 0, 0, 0, 0, 0, 0, 0xF4]

end Register

structure Processor where
  pc : UInt64 := 0
  registers : Vector UInt8 8 := Register.initial
  flags : UInt8 := 0
  deriving DecidableEq

namespace Processor

def get (processor : Processor) (register : Register) : UInt8 :=
  processor.registers[register]

def set (processor : Processor) (register : Register) (value : UInt8) : Processor :=
  { processor with registers := processor.registers.set register value }

theorem get_set (processor : Processor) (register other : Register) (value : UInt8) :
    (processor.set register value).get other =
      if register = other then value else processor.get other := by
  simp only [get, set, Fin.getElem_fin, Vector.getElem_set, Fin.ext_iff]

theorem ext_get {processor after : Processor} (pc : processor.pc = after.pc)
    (registers : ∀ register, processor.get register = after.get register)
    (flags : processor.flags = after.flags) : processor = after := by
  obtain ⟨_, before, _⟩ := processor
  obtain ⟨_, later, _⟩ := after
  obtain rfl : before = later := Vector.ext fun i low => registers ⟨i, low⟩
  cases pc
  cases flags
  rfl

def stackTop (processor : Processor) : UInt8 :=
  processor.get .stackPointer

def lowerStack (processor : Processor) : Processor :=
  processor.set .stackPointer (processor.stackTop - 1)

def raiseStack (processor : Processor) : Processor :=
  processor.set .stackPointer (processor.stackTop + 1)

def equalBit : UInt8 := 1

def greaterBit : UInt8 := 2

def lessBit : UInt8 := 4

def compare (processor : Processor) (left right : UInt8) : Processor :=
  { processor with
    flags := if left = right then equalBit else if right < left then greaterBit else lessBit }

def isEqual (processor : Processor) : Bool :=
  processor.flags &&& equalBit == equalBit

def isGreater (processor : Processor) : Bool :=
  processor.flags &&& greaterBit == greaterBit

def isLess (processor : Processor) : Bool :=
  processor.flags &&& lessBit == lessBit

def satisfies (processor : Processor) : Condition → Bool
  | .equal => processor.isEqual
  | .notEqual => !processor.isEqual
  | .greater => processor.isGreater
  | .less => processor.isLess
  | .lessOrEqual => processor.isEqual || processor.isLess
  | .greaterOrEqual => processor.isEqual || processor.isGreater

def flagName (isSet : Bool) : String :=
  if isSet then "SET" else "UNSET"

def registerRow (processor : Processor) (register : Register) : String :=
  "    R" ++ Text.decimal register ++ ":              " ++
    Text.hexLiteral (processor.get register).toNat ++ "\n"

def describe (processor : Processor) : String :=
  "\nCPU State:\n" ++
    "    Program Counter: " ++ Text.hexLiteral processor.pc.toNat ++ "\n" ++
    "    Stack Pointer:   " ++ Text.hexLiteral processor.stackTop.toNat ++ "\n" ++
    String.join ((List.finRange 8).map processor.registerRow) ++
    "\nFlags Register: " ++ Text.hexLiteral processor.flags.toNat ++ "\n" ++
    "    Equal:   " ++ flagName processor.isEqual ++ "\n" ++
    "    Greater: " ++ flagName processor.isGreater ++ "\n" ++
    "    Less:    " ++ flagName processor.isLess ++ "\n"

end Processor
end ByteMachine
