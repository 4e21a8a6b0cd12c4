import ByteMachine.Numeral
import ByteMachine.Text.Digits

/-! What the debugger answers. -/

namespace ByteMachine.Debugger

inductive Reply where
  | halted
  | next (traceLine : String)
  | reached (breakpoint : UInt64) (traceLine : String)
  | breakpointSet (address : UInt64)
  | breakpointRemoved (address : UInt64)
  | noBreakpoint (address : UInt64)
  | noAddress
  | badCount (error : NumeralError)
  | badAddress (error : NumeralError)
  | badLength (error : NumeralError)
  | registers (text : String)
  | cells (text : String)
  | help
  | quit
  deriving DecidableEq, Repr

def helpText : String :=
  "step [n]         (s) execute n instructions, default 1\n" ++
  "continue         (c) run until halt or breakpoint\n" ++
  "break <addr>     (b) set a breakpoint\n" ++
  "delete <addr>        remove a breakpoint\n" ++
  "regs             (r) show registers and flags\n" ++
  "dump [addr] [len](d) hex dump memory\n" ++
  "trace            (t) show the trace line for the next instruction\n" ++
  "help             (h) show this message\n" ++
  "quit             (q) leave the debugger"

def Reply.text? : Reply → Option String
  | .halted => some "machine halted"
  | .next traceLine => some traceLine
  | .reached breakpoint traceLine =>
    some ("breakpoint at " ++ Text.hexPairLiteral breakpoint.toNat ++ "\n" ++ traceLine)
  | .breakpointSet address => some ("breakpoint set at " ++ Text.hexPairLiteral address.toNat)
  | .breakpointRemoved address =>
    some ("breakpoint removed at " ++ Text.hexPairLiteral address.toNat)
  | .noBreakpoint address => some ("no breakpoint at " ++ Text.hexPairLiteral address.toNat)
  | .noAddress => some "an address is required"
  | .badCount error => some ("invalid step count: " ++ error.message)
  | .badAddress error => some ("invalid address: " ++ error.message)
  | .badLength error => some ("invalid length: " ++ error.message)
  | .registers text => some text
  | .cells text => some text
  | .help => some helpText
  | .quit => none

end ByteMachine.Debugger
