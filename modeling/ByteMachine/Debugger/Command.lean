import ByteMachine.Debugger.Arguments

/-! What can be asked of the debugger, and how a line asks for it. -/

namespace ByteMachine.Debugger

inductive Verb where
  | step | resume | setBreak | clearBreak | registers | dump | trace | help | quit
  deriving DecidableEq, Repr

namespace Verb

def all : List Verb :=
  [.step, .resume, .setBreak, .clearBreak, .registers, .dump, .trace, .help, .quit]

def names : Verb → List String
  | .step => ["step", "s"]
  | .resume => ["continue", "c"]
  | .setBreak => ["break", "b"]
  | .clearBreak => ["delete"]
  | .registers => ["regs", "r"]
  | .dump => ["dump", "d"]
  | .trace => ["trace", "t"]
  | .help => ["help", "h"]
  | .quit => ["quit", "q"]

def ofName? (name : String) : Option Verb :=
  let name := String.ofList (Text.lower name.toList)
  all.find? fun verb => verb.names.contains name

theorem mem_all (verb : Verb) : verb ∈ all := by
  cases verb <;> decide

theorem ofName?_of_mem_names {verb : Verb} {name : String} (h : name ∈ verb.names) :
    ofName? name = some verb := by
  have key : ∀ verb ∈ all, ∀ name ∈ verb.names, ofName? name = some verb := by decide +kernel
  exact key verb (mem_all verb) name h

end Verb

structure Command where
  verb : Verb
  arguments : List String := []
  deriving DecidableEq, Repr

inductive CommandError where
  | unclosedQuote
  | nothingAsked
  | unknown (name : String)
  deriving DecidableEq, Repr

def CommandError.message : CommandError → String
  | .unclosedQuote => "quoted arg does not close"
  | .nothingAsked => "no command specified"
  | .unknown name => "unknown command: " ++ name

def interpret (line : String) : Except CommandError Command :=
  match arguments? line with
  | none => .error .unclosedQuote
  | some [] => .error .nothingAsked
  | some (name :: arguments) =>
    match Verb.ofName? name with
    | none => .error (.unknown name)
    | some verb => .ok { verb, arguments }

end ByteMachine.Debugger
