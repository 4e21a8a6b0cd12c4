import ByteMachine.FileAccess
import ByteMachine.Semantics.Execution
import ByteMachine.Trace.Log

/-! The machine: it fetches, compares with a recording if it was given one, and executes, until an
instruction halts it or anything goes wrong. -/

namespace ByteMachine

open Text (LineSource)

structure Machine where
  core : Core := {}
  console : Console := {}
  log : Option LineSource := none
  halted : Bool := false

namespace Machine

def pc (machine : Machine) : UInt64 :=
  machine.core.processor.pc

def load (machine : Machine) (program : List UInt8) : Except Fault Unit × Machine :=
  let (result, memory) := machine.core.memory.copy 0 program
  (result, { machine with core.memory := memory })

def compareAgainst (machine : Machine) (path : String) : FileAccess → Except Fault Unit × Machine
  | .missing => (.error (.traceLogNotFound path), machine)
  | .refused reason => (.error (.io reason), machine)
  | .broken bytes reason => (.ok (), { machine with log := some (.interrupted bytes reason) })
  | .contents bytes => (.ok (), { machine with log := some (.ofBytes bytes) })

def fetch (machine : Machine) : Except Fault Instruction :=
  Instruction.fetch machine.core.memory machine.pc

def traceLine (machine : Machine) : String :=
  let shown (address : UInt64) : UInt8 :=
    match machine.core.memory.read address with
    | .ok byte => byte
    | .error _ => 0
  Trace.line machine.core.processor
    ⟨shown machine.pc, shown (machine.pc + 1), shown (machine.pc + 2)⟩

def check (machine : Machine) (line : String) : Except Fault Unit × Machine :=
  let (result, log) := Trace.checkAgainst? machine.log line
  (result, { machine with log })

def execute (machine : Machine) (instruction : Instruction) : Except Fault Status × Machine :=
  let (result, core, console) := instruction.execute machine.core machine.console
  (result, { machine with core, console })

def cycle (machine : Machine) : Except Fault Status × Machine :=
  match machine.fetch with
  | .error fault => (.error fault, machine)
  | .ok instruction =>
    match machine.check (Trace.line machine.core.processor instruction) with
    | (.error fault, machine) => (.error fault, machine)
    | (.ok (), machine) => machine.execute instruction

/-- A machine that met a fault has halted. A halted one stays as it is. -/
def step (machine : Machine) : Except Fault Status × Machine :=
  if machine.halted then (.ok .halted, machine)
  else
    match machine.cycle with
    | (.ok .running, machine) => (.ok .running, machine)
    | (result, machine) => (result, { machine with halted := true })

theorem step_halted {machine : Machine} (h : machine.halted) :
    machine.step = (.ok .halted, machine) :=
  if_pos h

/-- Up to so many steps. There is no result while the machine is still running. -/
def advance : Nat → Machine → Option (Except Fault Unit) × Machine
  | 0, machine => (none, machine)
  | fuel + 1, machine =>
    match machine.step with
    | (.ok .running, machine) => advance fuel machine
    | (.ok .halted, machine) => (some (.ok ()), machine)
    | (.error fault, machine) => (some (.error fault), machine)

theorem advance_add {fuel : Nat} {machine : Machine} (h : (machine.advance fuel).1.isSome)
    (more : Nat) : machine.advance (fuel + more) = machine.advance fuel := by
  induction fuel generalizing machine with
  | zero => exact absurd h Bool.false_ne_true
  | succ fuel ih =>
    rw [Nat.add_right_comm]
    unfold advance at h ⊢
    split <;> rename_i step
    · rw [step] at h
      exact ih h
    · rfl
    · rfl

def run (fuel : Nat) (machine : Machine) : Option (Except Fault Unit) × Machine :=
  match machine.advance fuel with
  | (some (.ok ()), machine) => (some machine.console.flush, machine)
  | (result, machine) => (result, machine)

def finish (machine : Machine) (result : Except Fault Unit) : Except Fault Unit :=
  match result with
  | .ok () => machine.console.flush
  | .error fault => .error fault

end Machine
end ByteMachine
