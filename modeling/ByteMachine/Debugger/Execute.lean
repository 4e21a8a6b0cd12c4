import ByteMachine.Debugger.Command
import ByteMachine.Debugger.Reply
import ByteMachine.Session

/-! The debugger at work on a session: single steps, runs up to a breakpoint, and looks at the
machine that leave it as it is. -/

namespace ByteMachine

structure Debugger where
  session : Session := {}
  breakpoints : List UInt64 := []

namespace Debugger

def machine (debugger : Debugger) : Machine :=
  debugger.session.machine

def setBreak (debugger : Debugger) (address : UInt64) : Debugger :=
  { debugger with breakpoints := debugger.breakpoints.insert address }

def clearBreak (debugger : Debugger) (address : UInt64) : Debugger :=
  { debugger with breakpoints := debugger.breakpoints.filter (· != address) }

def stepTimes : Nat → Session → Except Fault Status × Session
  | 0, session => (.ok .running, session)
  | count + 1, session =>
    match session.step with
    | (.ok .running, session) => stepTimes count session
    | stopped => stopped

def step (debugger : Debugger) (count : Nat) : Except Fault Reply × Debugger :=
  match stepTimes count debugger.session with
  | (.error fault, session) => (.error fault, { debugger with session })
  | (.ok .halted, session) => (.ok .halted, { debugger with session })
  | (.ok .running, session) => (.ok (.next session.machine.traceLine), { debugger with session })

/-- Runs until the machine stops or arrives at a breakpoint, which takes at least one step. There
is no reply if that did not happen within so many steps. -/
def runToBreak : Nat → Debugger → Option (Except Fault Reply) × Debugger
  | 0, debugger => (none, debugger)
  | fuel + 1, debugger =>
    match debugger.session.step with
    | (.error fault, session) => (some (.error fault), { debugger with session })
    | (.ok .halted, session) => (some (.ok .halted), { debugger with session })
    | (.ok .running, session) =>
      if debugger.breakpoints.contains session.machine.pc then
        (some (.ok (.reached session.machine.pc session.machine.traceLine)),
          { debugger with session })
      else runToBreak fuel { debugger with session }

def resume (fuel : Nat) (debugger : Debugger) : Option (Except Fault Reply) × Debugger :=
  if debugger.machine.halted then (some (.ok .halted), debugger)
  else
    let session := debugger.session.tell "debugger" "Starting execution now..."
    runToBreak fuel { debugger with session }

def dumpAddress : UInt64 := 0

def dumpLength : UInt64 := 16

def numberOr (fallback : UInt64) : Option String → Except NumeralError UInt64
  | none => .ok fallback
  | some text => readNumber text

def dump (machine : Machine) (arguments : List String) : Reply :=
  match numberOr dumpAddress arguments[0]? with
  | .error error => .badAddress error
  | .ok address =>
    match numberOr dumpLength arguments[1]? with
    | .error error => .badLength error
    | .ok length =>
      let text := machine.core.memory.hexDump address length
      .cells (String.ofList (Text.trimEnd text.toList))

def editBreak (debugger : Debugger) (arguments : List String)
    (edit : UInt64 → Reply × Debugger) : Reply × Debugger :=
  match arguments with
  | [] => (.noAddress, debugger)
  | text :: _ =>
    match readNumber text with
    | .error error => (.badAddress error, debugger)
    | .ok address => edit address

def execute (fuel : Nat) (debugger : Debugger) (command : Command) :
    Option (Except Fault Reply) × Debugger :=
  let answer (reply : Reply) := (some (.ok reply), debugger)
  match command.verb with
  | .step =>
    match numberOr 1 command.arguments.head? with
    | .error error => answer (.badCount error)
    | .ok count =>
      let (result, debugger) := debugger.step count.toNat
      (some result, debugger)
  | .resume => debugger.resume fuel
  | .setBreak =>
    let (reply, debugger) := debugger.editBreak command.arguments fun address =>
      (.breakpointSet address, debugger.setBreak address)
    (some (.ok reply), debugger)
  | .clearBreak =>
    let (reply, debugger) := debugger.editBreak command.arguments fun address =>
      if debugger.breakpoints.contains address then
        (.breakpointRemoved address, debugger.clearBreak address)
      else (.noBreakpoint address, debugger)
    (some (.ok reply), debugger)
  | .registers => answer (.registers debugger.machine.core.processor.describe)
  | .dump => answer (dump debugger.machine command.arguments)
  | .trace => answer (.next debugger.machine.traceLine)
  | .help => answer .help
  | .quit => answer .quit

end Debugger
end ByteMachine
