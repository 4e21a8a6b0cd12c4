import ByteMachine.CommandLine.Options

/-! An option parser: options and other arguments in any order, letters in clusters, values
attached or in the next argument, and two dashes to end the options. -/

namespace ByteMachine.CommandLine

namespace Switch

def ofLetter? (letter : Char) : Option Switch :=
  all.find? fun switch => switch.letter == letter

def ofName? (name : String) : Option Switch :=
  match name.toList with
  | [c] => if c.utf8Size = 1 then ofLetter? c else none
  | _ => all.find? fun switch => switch.word == name

theorem mem_all (switch : Switch) : switch ∈ all := by
  cases switch <;> decide

theorem ofLetter?_letter (switch : Switch) : ofLetter? switch.letter = some switch := by
  cases switch <;> rfl

def purposeColumn : Nat := 24

def usageRow (switch : Switch) : String :=
  let value := (switch.valueName?.map (" " ++ ·)).getD ""
  let forms := "    -" ++ String.singleton switch.letter ++ ", --" ++ switch.word ++ value
  String.ofList (forms.toList.rightpad purposeColumn ' ') ++ switch.purpose ++ "\n"

end Switch

namespace Dashes

inductive OptionError where
  | missingValue (name : String)
  | unrecognized (name : String)
  | unexpectedValue (name : String)
  | repeated (name : String)
  deriving DecidableEq, Repr

def OptionError.message : OptionError → String
  | .missingValue name => "Argument to option '" ++ name ++ "' missing"
  | .unrecognized name => "Unrecognized option: '" ++ name ++ "'"
  | .unexpectedValue name => "Option '" ++ name ++ "' does not take an argument"
  | .repeated name => "Option '" ++ name ++ "' given more than once"

structure Cluster where
  given : List Given := []
  waiting : Option (Switch × String) := none

def readLetters : List Char → Except OptionError Cluster
  | [] => .ok {}
  | c :: rest =>
    match Switch.ofLetter? c with
    | none => .error (.unrecognized (String.singleton c))
    | some switch =>
      if switch.takesValue then
        if rest.isEmpty then .ok { waiting := some (switch, String.singleton c) }
        else .ok { given := [{ switch, value := some (String.ofList rest) }] }
      else do
        let cluster ← readLetters rest
        return { cluster with given := { switch } :: cluster.given }

def splitValue (body : List Char) : String × Option String :=
  match body.dropWhile (· != '=') with
  | [] => (String.ofList body, none)
  | _ :: value => (String.ofList (body.takeWhile (· != '=')), some (String.ofList value))

def readWord (body : List Char) : Except OptionError Cluster :=
  let (name, value) := splitValue body
  match Switch.ofName? name, value with
  | none, _ => .error (.unrecognized name)
  | some switch, some value =>
    if switch.takesValue then .ok { given := [{ switch, value := some value }] }
    else .error (.unexpectedValue name)
  | some switch, none =>
    if switch.takesValue then .ok { waiting := some (switch, name) }
    else .ok { given := [{ switch }] }

def give (given : List Given) (arguments : Arguments) : Arguments :=
  { arguments with given := given ++ arguments.given }

def setFree (free : List String) (arguments : Arguments) : Arguments :=
  { arguments with free := free ++ arguments.free }

def readArguments : List String → Except OptionError Arguments
  | [] => .ok {}
  | argument :: rest =>
    match argument.toList with
    | ['-', '-'] => .ok { free := rest }
    | '-' :: '-' :: body => readWord body >>= settle rest
    | '-' :: c :: letters => readLetters (c :: letters) >>= settle rest
    | _ => setFree [argument] <$> readArguments rest
where
  settle : List String → Cluster → Except OptionError Arguments
    | rest, { given, waiting := none } => give given <$> readArguments rest
    | [], { waiting := some (_, name), .. } => .error (.missingValue name)
    | value :: rest, { given, waiting := some (switch, _) } =>
      give (given ++ [{ switch, value := some value }]) <$> readArguments rest

def repeated? (arguments : Arguments) : Option Switch :=
  Switch.all.find? fun switch => arguments.given.countP (·.switch = switch) > 1

def rejectRepeated (read : Arguments) : Except OptionError Arguments :=
  match repeated? read with
  | some switch => .error (.repeated switch.word)
  | none => .ok read

def parse (arguments : List String) : Except OptionError Arguments :=
  readArguments arguments >>= rejectRepeated

end Dashes

def OptionParser.dashes : OptionParser where
  parse arguments := (Dashes.parse arguments).mapError Dashes.OptionError.message
  page top := top ++ "\n\nOptions:\n" ++ String.join (Switch.all.map Switch.usageRow)

end ByteMachine.CommandLine
