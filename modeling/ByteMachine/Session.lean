import ByteMachine.Semantics.Machine

/-! A machine at work in front of a user: what it prints goes to standard output, and where asked
for, so does a line for each thing it does, while trace lines go to standard error. The machine
itself knows nothing of it. -/

namespace ByteMachine

structure Reporting where
  verbose : Bool := false
  trace : Bool := false
  stamp : String := ""

structure Session where
  machine : Machine := {}
  reporting : Reporting := {}
  output : ByteArray := .empty
  errors : String := ""

namespace Session

def print (session : Session) (text : String) : Session :=
  { session with output := session.output ++ text.toUTF8 }

def printError (session : Session) (text : String) : Session :=
  { session with errors := session.errors ++ text }

def programName : String := "ls8-rs"

def complaint (text : String) : String :=
  programName ++ ": " ++ text ++ "\n"

def complain (session : Session) (text : String) : Session :=
  session.printError (complaint text)

def tell (session : Session) (teller text : String) : Session :=
  if session.reporting.verbose then
    session.print ("[" ++ session.reporting.stamp ++ "] -- [" ++ teller ++ "] " ++ text ++ "\n")
  else session

/-- What is told before an instruction is executed. One that differs from the recording is not
executed, and so not told of. -/
def announce (session : Session) : Session :=
  match session.machine.fetch with
  | .error _ => session
  | .ok instruction =>
    let line := Trace.line session.machine.core.processor instruction
    let session := if session.reporting.trace then session.printError (line ++ "\n") else session
    match (session.machine.check line).1 with
    | .ok () => session.tell "cpu" instruction.disassemble
    | .error _ => session

def conclude (session : Session) : Except Fault Status → Session
  | .ok .running => session
  | .ok .halted =>
    session.tell "ls8" ("Halted at " ++ Text.hexPairLiteral session.machine.pc.toNat)
  | .error fault => session.tell "ls8" ("Fatal: " ++ fault.message)

def follow (session : Session) (machine : Machine) : Session :=
  let already := session.machine.console.written.size
  let written := machine.console.written
  { session with machine, output := session.output ++ written.extract already written.size }

def step (session : Session) : Except Fault Status × Session :=
  if session.machine.halted then (.ok .halted, session)
  else
    let (result, machine) := session.machine.step
    (result, (session.announce.follow machine).conclude result)

/-- After all that was written has been passed on. What the console took is forgotten as well, so
that a long run does not keep it. -/
def drain (session : Session) : Session :=
  { session with
    output := .empty
    errors := ""
    machine := { session.machine with
      console := { session.machine.console with written := .empty } } }

theorem exists_tell (session : Session) (teller text : String) :
    ∃ output, session.tell teller text = { session with output } := by
  unfold tell
  split
  · exact ⟨_, rfl⟩
  · exact ⟨session.output, rfl⟩

theorem machine_tell (session : Session) (teller text : String) :
    (session.tell teller text).machine = session.machine := by
  obtain ⟨output, told⟩ := session.exists_tell teller text
  rw [told]

theorem exists_conclude (session : Session) (result : Except Fault Status) :
    ∃ output, session.conclude result = { session with output } :=
  match result with
  | .ok .running => ⟨session.output, rfl⟩
  | .ok .halted => exists_tell ..
  | .error _ => exists_tell ..

theorem step_machine (session : Session) :
    (session.step.1, session.step.2.machine) = session.machine.step := by
  unfold step
  split
  · rename_i halted
    rw [Machine.step, if_pos halted]
  · obtain ⟨output, concluded⟩ := exists_conclude
      (session.announce.follow session.machine.step.2) session.machine.step.1
    dsimp only
    rw [concluded]
    rfl

theorem result_step (session : Session) : session.step.1 = session.machine.step.1 :=
  congrArg Prod.fst session.step_machine

theorem machine_step (session : Session) : session.step.2.machine = session.machine.step.2 :=
  congrArg Prod.snd session.step_machine

def advance : Nat → Session → Option (Except Fault Unit) × Session
  | 0, session => (none, session)
  | fuel + 1, session =>
    match session.step with
    | (.ok .running, session) => advance fuel session
    | (.ok .halted, session) => (some (.ok ()), session)
    | (.error fault, session) => (some (.error fault), session)

theorem advance_machine (fuel : Nat) (session : Session) :
    ((session.advance fuel).1, (session.advance fuel).2.machine) =
      session.machine.advance fuel := by
  induction fuel generalizing session with
  | zero => rfl
  | succ fuel ih =>
    have same := session.step_machine
    unfold advance Machine.advance
    rw [← same]
    obtain ⟨_ | _ | _, after⟩ := session.step
    · rfl
    · exact ih after
    · rfl

end Session
end ByteMachine
