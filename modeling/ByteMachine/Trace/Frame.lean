import ByteMachine.Isa.Instruction
import ByteMachine.Numeral
import ByteMachine.State.Processor
import ByteMachine.Text.Blank

/-! The state just before an instruction: as one line of text, and read back from such a line
however it is spaced. -/

namespace ByteMachine

structure Frame where
  pc : UInt8
  instruction : Instruction
  registers : Vector UInt8 8
  deriving DecidableEq

namespace Trace

def tag : List Char :=
  ['T', 'R', 'A', 'C', 'E', ':']

def line (processor : Processor) (bytes : Instruction) : String :=
  String.ofList tag ++ " " ++ Text.hexPair processor.pc.toNat ++ " | " ++
    Text.hexPair bytes.code.toNat ++ " " ++ Text.hexPair bytes.first.toNat ++ " " ++
    Text.hexPair bytes.second.toNat ++ " |" ++
    String.join (processor.registers.toList.map fun value => " " ++ Text.hexPair value.toNat)

def dropTags : List Char → List Char
  | 'T' :: 'R' :: 'A' :: 'C' :: 'E' :: ':' :: rest => dropTags rest
  | text => text

/-- Words that are missing read as empty ones, and words past the last one count for nothing. -/
def readBytes (count : Nat) (text : List Char) : Except NumeralError (Vector UInt8 count) :=
  let words := Text.words text
  (Vector.ofFn fun i : Fin count => words.getD i []).mapM (Numeral.readByte 16)

def readFrame (text : List Char) : Except NumeralError Frame := do
  let sections := (dropTags (Text.trim text)).splitOn '|'
  let pc ← Numeral.readByte 16 (Text.trim (sections.getD 0 []))
  let bytes ← readBytes 3 (sections.getD 1 [])
  let registers ← readBytes 8 (sections.getD 2 [])
  return { pc, instruction := ⟨bytes[0], bytes[1], bytes[2]⟩, registers }

end Trace
end ByteMachine
