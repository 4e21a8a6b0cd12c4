import ByteMachine.Text.LineSource
import ByteMachine.Trace.Frame

/-! Comparing a run with one recorded before. Lines of the recording that hold no frame, such as
what the program printed, do not count. -/

namespace ByteMachine.Trace

open Text (LineSource)

def fromTag? : List Char → Option (List Char)
  | [] => none
  | c :: rest => if tag.isPrefixOf (c :: rest) then some (c :: rest) else fromTag? rest

/-- Reads up to the next line with a frame. Where the recording ends there is an empty one. -/
def nextFrame (failure : Option String) :
    List (Option String) → Except Fault (List Char) × List (Option String)
  | [] =>
    match failure with
    | none => (.ok [], [])
    | some reason => (.error (.io reason), [])
  | none :: rest => (.error (.io LineSource.invalidText), rest)
  | some line :: rest =>
    match fromTag? line.toList with
    | none => nextFrame failure rest
    | some text => (.ok (Text.trimEnd text), rest)

def agree (expected actual : List Char) : Bool :=
  match readFrame expected, readFrame actual with
  | .ok expected, .ok actual => expected = actual
  | _, _ => false

def check (log : LineSource) (actual : String) : Except Fault Unit × LineSource :=
  match nextFrame log.failure log.lines with
  | (.error fault, lines) => (.error fault, { log with lines })
  | (.ok expected, lines) =>
    (if agree expected actual.toList then .ok ()
      else .error (.traceMismatch (String.ofList expected) actual),
      { log with lines })

def checkAgainst? (log : Option LineSource) (actual : String) :
    Except Fault Unit × Option LineSource :=
  match log with
  | none => (.ok (), none)
  | some log =>
    let (result, log) := check log actual
    (result, some log)

end ByteMachine.Trace
