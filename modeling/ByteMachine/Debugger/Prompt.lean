import ByteMachine.Debugger.Execute
import ByteMachine.Text.Blank

/-! A debugging session: lines come in, replies go to standard output and complaints about a line
to standard error. A fault of the machine ends the session. -/

namespace ByteMachine.Debugger

inductive Turn where
  | listening
  | working
  | over (result : Except Fault Unit)

def map (debugger : Debugger) (change : Session → Session) : Debugger :=
  { debugger with session := change debugger.session }

def greet (debugger : Debugger) : Debugger :=
  debugger.map fun session =>
    (session.tell "debugger" "Starting debugger...").print (session.machine.traceLine ++ "\n")

def respond : Option (Except Fault Reply) × Debugger → Turn × Debugger
  | (none, debugger) => (.working, debugger)
  | (some (.error fault), debugger) => (.over (.error fault), debugger)
  | (some (.ok reply), debugger) =>
    match reply.text? with
    | none => (.over (.ok ()), debugger)
    | some text =>
      (.listening, if text.isEmpty then debugger else debugger.map (·.print (text ++ "\n")))

def feed (fuel : Nat) (debugger : Debugger) (line : String) : Turn × Debugger :=
  if (Text.trim line.toList).isEmpty then (.listening, debugger)
  else
    match interpret line with
    | .error error => (.listening, debugger.map (·.complain error.message))
    | .ok command => respond (debugger.execute fuel command)

def work (fuel : Nat) (debugger : Debugger) : Turn × Debugger :=
  respond (debugger.runToBreak fuel)

def listen (fuel : Nat) (debugger : Debugger) : List (Except String String) → Turn × Debugger
  | [] => (.over (.ok ()), debugger)
  | .error reason :: _ => (.over (.error (.io reason)), debugger)
  | .ok line :: rest =>
    match debugger.feed fuel line with
    | (.listening, debugger) => listen fuel debugger rest
    | stopped => stopped

end ByteMachine.Debugger
