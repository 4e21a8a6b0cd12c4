import ByteMachine.Fault
import ByteMachine.FileAccess
import ByteMachine.Numeral
import ByteMachine.Text.Blank
import ByteMachine.Text.Lines

/-! The text of a program: a binary numeral on each line, one for each byte. A comment runs from
its mark to the end of the line, and lines with nothing else on them are passed over. -/

namespace ByteMachine.Program

def capacity : Nat := 256

def commentMark : Char := '#'

def uncomment (line : List Char) : List Char :=
  Text.trim (line.takeWhile (· != commentMark))

/-- Lines are counted from the number given, those passed over included. -/
def readLines : Nat → List (List Char) → Except Fault (List UInt8)
  | _, [] => .ok []
  | number, line :: rest =>
    let text := uncomment line
    if text.isEmpty then readLines (number + 1) rest
    else
      match Numeral.readByte 2 text with
      | .error _ => .error (.invalidLine number (String.ofList text))
      | .ok byte => (byte :: ·) <$> readLines (number + 1) rest

def parse (source : String) : Except Fault (List UInt8) := do
  let bytes ← readLines 1 (Text.lines source.toList)
  if bytes.length ≤ capacity then return bytes
  else throw (.programTooLarge bytes.length)

def read (path : String) : FileAccess → Except Fault (List UInt8)
  | .missing => .error (.programNotFound path)
  | .refused reason | .broken _ reason => .error (.io reason)
  | .contents bytes =>
    match String.fromUTF8? bytes with
    | none => .error (.io Text.LineSource.invalidText)
    | some source => parse source

end ByteMachine.Program
