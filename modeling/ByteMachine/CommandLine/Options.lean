import ByteMachine.CommandLine.Switch

/-! What the arguments of a command say. Reading them is left to an option parser, and all that is
known of one is what it is documented to do. -/

namespace ByteMachine.CommandLine

structure Given where
  switch : Switch
  value : Option String := none
  deriving DecidableEq, Repr

structure Arguments where
  given : List Given := []
  free : List String := []
  deriving DecidableEq, Repr

namespace Arguments

def has (arguments : Arguments) (switch : Switch) : Bool :=
  arguments.given.any (·.switch = switch)

def value? (arguments : Arguments) (switch : Switch) : Option String :=
  arguments.given.findSome? fun given => if given.switch = switch then given.value else none

end Arguments

structure OptionParser where
  parse : List String → Except String Arguments
  page : String → String

/-- In front of arguments that do without it, a flag is noted and changes nothing else. -/
structure OptionParser.Documented (options : OptionParser) : Prop where
  flag : ∀ switch : Switch, switch.takesValue = false → ∀ arguments read,
    options.parse arguments = .ok read → read.has switch = false →
      options.parse (switch.flag :: arguments) = .ok { read with given := { switch } :: read.given }

end ByteMachine.CommandLine
