/-! The options that the command line knows, how they are written, and what they are for. -/

namespace ByteMachine.CommandLine

inductive Switch where
  | verbose | trace | debug | compare | help
  deriving DecidableEq, Repr

namespace Switch

def all : List Switch :=
  [.verbose, .trace, .debug, .compare, .help]

def letter : Switch → Char
  | .verbose => 'v'
  | .trace => 't'
  | .debug => 'd'
  | .compare => 'c'
  | .help => 'h'

def word : Switch → String
  | .verbose => "verbose"
  | .trace => "trace"
  | .debug => "debug"
  | .compare => "compare"
  | .help => "help"

def valueName? : Switch → Option String
  | .compare => some "FILE"
  | _ => none

def takesValue (switch : Switch) : Bool :=
  switch.valueName?.isSome

def purpose : Switch → String
  | .verbose => "log every instruction as it executes"
  | .trace => "print the machine state before every instruction"
  | .debug => "start the interactive debugger"
  | .compare => "compare execution against a recorded trace"
  | .help => "print this help menu"

def flag (switch : Switch) : String :=
  String.ofList ['-', switch.letter]

end Switch
end ByteMachine.CommandLine
