import ByteMachine.Text.Cluster
import ByteMachine.Text.LineSource

/-! A line editor where nobody sits at a terminal: all that there is to obey in a line is the
backspace. -/

namespace ByteMachine.CommandLine.LineEditor

open Text (LineSource)

def edited (line : String) : String :=
  String.ofList (Text.applyBackspaces (Text.chomp line.toList))

def entered (input : LineSource) : List (Except String String) :=
  input.lines.map (fun
    | none => .error LineSource.invalidText
    | some line => .ok (edited line)) ++ input.failure.toList.map .error

end ByteMachine.CommandLine.LineEditor
