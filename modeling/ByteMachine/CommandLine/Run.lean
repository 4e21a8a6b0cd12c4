import ByteMachine.CommandLine.Options
import ByteMachine.Debugger.Prompt
import ByteMachine.Program

/-! A whole command, from its arguments to its exit code: the program is read and loaded, the
recording opened, and the machine run or handed to the debugger. -/

namespace ByteMachine.CommandLine

structure Host where
  options : OptionParser
  files : String → FileAccess
  /-- What comes from the line editor, up to its end or to where it cannot read on. -/
  entered : List (Except String String) := []
  stamp : String := ""

structure Outcome where
  exitCode : UInt8
  output : ByteArray := .empty
  errors : String := ""

structure Task where
  program : String
  compare : Option String
  debug : Bool
  reporting : Reporting

inductive Plan where
  | answer (outcome : Outcome)
  | work (task : Task)

def Plan.ofRead (options : OptionParser) (stamp : String) (read : Arguments) : Plan :=
  let page := (options.page ("Usage: " ++ Session.programName ++ " [options] PROGRAM")).toUTF8
  if read.has .help then .answer { exitCode := 0, output := page }
  else
    match read.free with
    | [] => .answer { exitCode := 1, output := page }
    | program :: _ =>
      .work {
        program
        compare := read.value? .compare
        debug := read.has .debug
        reporting := { verbose := read.has .verbose, trace := read.has .trace, stamp } }

def Plan.ofArguments (options : OptionParser) (stamp : String) (arguments : List String) : Plan :=
  match options.parse arguments with
  | .error text => .answer { exitCode := 1, errors := Session.complaint text }
  | .ok read => .ofRead options stamp read

def loadProgram (task : Task) (program : FileAccess) : Except Fault Unit × Session :=
  let session : Session := { reporting := task.reporting }
  match Program.read task.program program with
  | .error fault => (.error fault, session)
  | .ok bytes =>
    match session.machine.load bytes with
    | (.error fault, machine) => (.error fault, { session with machine })
    | (.ok (), machine) =>
      (.ok (), { session with machine }.tell "ls8"
        ("Loaded " ++ Text.decimal bytes.length ++ " byte program"))

def openLog (files : String → FileAccess) (task : Task) (session : Session) :
    Except Fault Unit × Session :=
  match task.compare with
  | none => (.ok (), session)
  | some path =>
    let (result, machine) := session.machine.compareAgainst path (files path)
    (result, { session with machine })

def prepare (files : String → FileAccess) (task : Task) : Except Fault Unit × Session :=
  match loadProgram task (files task.program) with
  | (.ok (), session) => openLog files task session
  | failed => failed

def giveUp (session : Session) (fault : Fault) : Outcome :=
  let session := session.complain fault.message
  { exitCode := fault.exitCode, output := session.output, errors := session.errors }

def conclude (session : Session) (result : Except Fault Unit) : Outcome :=
  match session.machine.finish result with
  | .ok () => { exitCode := 0, output := session.output, errors := session.errors }
  | .error fault =>
    if fault.isRuntime then
      giveUp (session.printError (session.machine.core.processor.describe ++ "\n")) fault
    else giveUp session fault

def runSession (fuel : Nat) (session : Session) : Option (Except Fault Unit) × Session :=
  match session.advance fuel with
  | (some (.ok ()), session) => (some session.machine.console.flush, session)
  | stopped => stopped

def debugSession (fuel : Nat) (entered : List (Except String String)) (session : Session) :
    Option (Except Fault Unit) × Session :=
  match ({ session : Debugger }).greet.listen fuel entered with
  | (.over result, debugger) => (some result, debugger.session)
  | (_, debugger) => (none, debugger.session)

/-- There is no outcome while the program still runs when the fuel is used up. -/
def perform (fuel : Nat) (host : Host) (task : Task) : Option Outcome :=
  match prepare host.files task with
  | (.error fault, session) => some (giveUp session fault)
  | (.ok (), session) =>
    let (result, session) :=
      if task.debug then debugSession fuel host.entered session else runSession fuel session
    result.map (conclude session)

def run (fuel : Nat) (host : Host) (arguments : List String) : Option Outcome :=
  match Plan.ofArguments host.options host.stamp arguments with
  | .answer outcome => some outcome
  | .work task => perform fuel host task

end ByteMachine.CommandLine
