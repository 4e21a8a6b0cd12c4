import ByteMachine.CommandLine.Dashes
import ByteMachine.CommandLine.LineEditor
import ByteMachine.CommandLine.Run

/-! The command itself: files, streams and the clock. -/

namespace ByteMachine.CommandLine

def prompt : String := "(ls8) "

def stride : Nat := 4096

def reason : IO.Error → String
  | .alreadyExists _ code text | .interrupted _ code text | .noFileOrDirectory _ code text
  | .invalidArgument _ code text | .permissionDenied _ code text
  | .resourceExhausted _ code text | .inappropriateType _ code text | .noSuchThing _ code text
  | .otherError code text | .resourceBusy code text | .resourceVanished code text
  | .unsupportedOperation code text | .hardwareFault code text
  | .unsatisfiedConstraints code text | .illegalOperation code text | .protocolError code text
  | .timeExpired code text => text ++ " (os error " ++ Text.decimal code.toNat ++ ")"
  | .unexpectedEof => "unexpected end of file"
  | .userError text => text

def portion : USize := 65536

partial def readToEnd (handle : IO.FS.Handle) (bytes : ByteArray) : IO FileAccess := do
  match ← (handle.read portion).toBaseIO with
  | .error error => return .broken bytes (reason error)
  | .ok more =>
    if more.isEmpty then return .contents bytes
    else readToEnd handle (bytes ++ more)

def openFile (path : String) : IO FileAccess := do
  match ← (IO.FS.Handle.mk path .read).toBaseIO with
  | .error (.noFileOrDirectory ..) => return .missing
  | .error error => return .refused (reason error)
  | .ok handle => readToEnd handle .empty

def openFiles (task : Task) : IO (String → FileAccess) := do
  let program ← openFile task.program
  match task.compare with
  | none => return fun _ => program
  | some path =>
    let log ← openFile path
    return fun name => if name = task.program then program else log

def stampNow : IO String :=
  return Text.decimal (← IO.monoMsNow) ++ " ms"

def emit (output : ByteArray) (errors : String) : IO Unit := do
  let out ← IO.getStdout
  out.write output
  out.flush
  (← IO.getStderr).putStr errors

def passOn (session : Session) : IO Session := do
  emit session.output session.errors
  let session := session.drain
  return { session with reporting := { session.reporting with stamp := ← stampNow } }

partial def runToEnd (session : Session) : IO Outcome := do
  match runSession stride session with
  | (some result, session) => return conclude session result
  | (none, session) => runToEnd (← passOn session)

partial def debugToEnd (turn : Debugger.Turn) (debugger : Debugger) : IO Outcome := do
  let debugger := { debugger with session := ← passOn debugger.session }
  match turn with
  | .over result => return conclude debugger.session result
  | .working =>
    let (turn, debugger) := debugger.work stride
    debugToEnd turn debugger
  | .listening =>
    let input ← IO.getStdin
    if ← input.isTty then emit prompt.toUTF8 ""
    match ← input.getLine.toBaseIO with
    | .error error => debugToEnd (.over (.error (.io (reason error)))) debugger
    | .ok "" => debugToEnd (.over (.ok ())) debugger
    | .ok line =>
      let (turn, debugger) := debugger.feed stride (LineEditor.edited line)
      debugToEnd turn debugger

def performTask (task : Task) : IO Outcome := do
  match prepare (← openFiles task) task with
  | (.error fault, session) => return giveUp session fault
  | (.ok (), session) =>
    if task.debug then debugToEnd .listening ({ session : Debugger }).greet
    else runToEnd session

end ByteMachine.CommandLine

open ByteMachine.CommandLine in
def main (arguments : List String) : IO UInt32 := do
  let outcome ← match Plan.ofArguments .dashes (← stampNow) arguments with
    | .answer outcome => pure outcome
    | .work task => performTask task
  emit outcome.output outcome.errors
  return outcome.exitCode.toUInt32
