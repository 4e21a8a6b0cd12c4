import ByteMachine.Proofs.Semantics.CommittedEffect
import ByteMachine.Semantics.Machine

/-! All that a step of a running machine can come to, one rule for each way through it. What a
step keeps or brings about is read off these rules, and `step` itself stays closed. -/

namespace ByteMachine

open Text (LineSource)

theorem Instruction.run_perform (instruction : Instruction) (hardware : Hardware) :
    instruction.perform.run hardware = hardware.commit (instruction.effect hardware.core) := by
  rw [perform, effect, EStateM.run_bind, Action.run_processor]
  dsimp only
  cases instruction.opcode hardware.core.processor.pc with
  | error fault => rfl
  | ok opcode => exact opcode.run_perform _ _ hardware

namespace Machine

def compared (machine : Machine) (instruction : Instruction) :
    Except Fault Unit × Option LineSource :=
  Trace.checkAgainst? machine.log (Trace.line machine.core.processor instruction)

theorem compared_of_unlogged {machine : Machine} (unlogged : machine.log = none)
    (instruction : Instruction) : machine.compared instruction = (.ok (), none) := by
  rw [compared, unlogged, Trace.checkAgainst?]

theorem check_line (machine : Machine) (instruction : Instruction) :
    machine.check (Trace.line machine.core.processor instruction) =
      ((machine.compared instruction).1,
        { machine with log := (machine.compared instruction).2 }) :=
  rfl

inductive StepsTo (machine : Machine) : Except Fault Status → Machine → Prop where
  | unfetched {fault : Fault} (fetched : machine.fetch = .error fault) :
      StepsTo machine (.error fault) { machine with halted := true }
  | differing {instruction : Instruction} {fault : Fault} {log : Option LineSource}
      (fetched : machine.fetch = .ok instruction)
      (compared : machine.compared instruction = (.error fault, log)) :
      StepsTo machine (.error fault) { machine with log, halted := true }
  | faulting {instruction : Instruction} {fault : Fault} {log : Option LineSource}
      (fetched : machine.fetch = .ok instruction)
      (compared : machine.compared instruction = (.ok (), log))
      (effect : instruction.effect machine.core = .error fault) :
      StepsTo machine (.error fault) { machine with log, halted := true }
  | halting {instruction : Instruction} {log : Option LineSource}
      (fetched : machine.fetch = .ok instruction)
      (compared : machine.compared instruction = (.ok (), log))
      (effect : instruction.effect machine.core = .ok .halt) :
      StepsTo machine (.ok .halted) { machine with log, halted := true }
  | unprinted {instruction : Instruction} {fault : Fault} {log : Option LineSource} {core : Core}
      {printed : Option String} {console : Console}
      (fetched : machine.fetch = .ok instruction)
      (compared : machine.compared instruction = (.ok (), log))
      (effect : instruction.effect machine.core = .ok (.proceed core printed))
      (offered : machine.console.offer printed = (.error fault, console)) :
      StepsTo machine (.error fault) { machine with log, console, halted := true }
  | proceeding {instruction : Instruction} {log : Option LineSource} {core : Core}
      {printed : Option String} {console : Console}
      (fetched : machine.fetch = .ok instruction)
      (compared : machine.compared instruction = (.ok (), log))
      (effect : instruction.effect machine.core = .ok (.proceed core printed))
      (offered : machine.console.offer printed = (.ok (), console)) :
      StepsTo machine (.ok .running) { machine with log, core, console }

variable {machine after : Machine} {result : Except Fault Status}

theorem execute_eq (machine : Machine) (instruction : Instruction) :
    machine.execute instruction =
      match instruction.effect machine.core with
      | .error fault => (.error fault, machine)
      | .ok .halt => (.ok .halted, machine)
      | .ok (.proceed core printed) =>
        match machine.console.offer printed with
        | (.ok (), console) => (.ok .running, { machine with core, console })
        | (.error fault, console) => (.error fault, { machine with console }) := by
  rw [execute, Instruction.execute, Instruction.run_perform]
  rcases instruction.effect machine.core with _ | _ | ⟨core, printed⟩
  · rfl
  · rfl
  · simp only [Hardware.commit]
    rcases machine.console.offer printed with ⟨_ | _, console⟩ <;> rfl

theorem stepsTo_step (running : machine.halted = false) :
    machine.StepsTo machine.step.1 machine.step.2 := by
  rw [step, if_neg (by simp only [running, Bool.false_eq_true, not_false_eq_true]), cycle]
  -- fetching, comparing, working out the effect, printing: each can end the step
  cases fetched : machine.fetch with
  | error fault => exact .unfetched fetched
  | ok instruction =>
    rcases compared : machine.compared instruction with ⟨fault | _, log⟩
    · simp only [check_line, compared]
      exact .differing fetched compared
    · simp only [check_line, compared, execute_eq]
      rcases effect : instruction.effect machine.core with fault | _ | ⟨core, printed⟩
      · exact .faulting fetched compared effect
      · exact .halting fetched compared effect
      · rcases offered : machine.console.offer printed with ⟨fault | _, console⟩ <;>
          simp only [offered]
        · exact .unprinted fetched compared effect offered
        · exact .proceeding fetched compared effect offered

/-- No two rules apply to the same machine. -/
theorem StepsTo.step_eq (h : machine.StepsTo result after) (running : machine.halted = false) :
    machine.step = (result, after) := by
  rw [step, if_neg (by simp only [running, Bool.false_eq_true, not_false_eq_true]), cycle]
  cases h with
  | unfetched fetched => simp only [fetched]
  | differing fetched compared => simp only [fetched, check_line, compared]
  | faulting fetched compared effect | halting fetched compared effect =>
    simp only [fetched, check_line, compared, execute_eq, effect]
  | unprinted fetched compared effect offered | proceeding fetched compared effect offered =>
    simp only [fetched, check_line, compared, execute_eq, effect, offered]

theorem StepsTo.halted (h : machine.StepsTo result after) (stopped : result ≠ .ok .running) :
    after.halted := by
  cases h with
  | proceeding => exact absurd rfl stopped
  | _ => rfl

end Machine
end ByteMachine
