import ByteMachine.Proofs.Semantics.Runs

/-! A step that meets a fault leaves processor and memory as they were, and the console too unless
the console itself is to blame. The machine has halted then, and a halted machine stays as it is
whatever is called. -/

namespace ByteMachine

namespace Machine

/-- The console took only a first part of what the instruction was printing. -/
def CutShort (machine : Machine) (fault : Fault) (after : Machine) : Prop :=
  ∃ instruction text refusal kept rest, machine.fetch = .ok instruction ∧
    instruction.text? machine.core.processor = some text ∧
    machine.console.device.refuse machine.console.written text.toUTF8 = some refusal ∧
    fault = .io refusal.reason ∧ text.toUTF8 = kept ++ rest ∧
    after.console = { machine.console with written := machine.console.written ++ kept }

inductive Call where
  | step
  | run (fuel : Nat)

def Call.on : Call → Machine → Machine
  | .step, machine => machine.step.2
  | .run fuel, machine => (machine.run fuel).2

def afterCalls (machine : Machine) : List Call → Machine
  | [] => machine
  | call :: calls => (call.on machine).afterCalls calls

theorem on_halted {machine : Machine} (halted : machine.halted) (call : Call) :
    call.on machine = machine := by
  cases call with
  | step => simp only [Call.on, step_halted halted]
  | run fuel =>
    cases fuel with
    | zero => rfl
    | succ fuel => simp only [Call.on, run, advance, step_halted halted]

theorem afterCalls_halted {machine : Machine} (halted : machine.halted) (calls : List Call) :
    machine.afterCalls calls = machine := by
  induction calls with
  | nil => rfl
  | cons call calls ih => rw [afterCalls, on_halted halted, ih]

variable {machine after : Machine} {fault : Fault}

theorem StepsTo.core_eq (h : machine.StepsTo (.error fault) after) : after.core = machine.core := by
  cases h <;> rfl

theorem StepsTo.console_eq (h : machine.StepsTo (.error fault) after) :
    after.console = machine.console ∨ machine.CutShort fault after := by
  cases h with
  | unprinted fetched compared effect offered =>
    obtain ⟨text, refusal, rfl, refused, rfl, rfl⟩ := Console.offer_error offered
    have shown := (Instruction.printed_eq_text? effect).symm
    have parts : text.toUTF8 = text.toUTF8.extract 0 refusal.taken ++
        text.toUTF8.extract refusal.taken text.toUTF8.size := by
      rw [ByteArray.extract_append_extract, Nat.zero_min, ByteArray.extract_zero_max_size]
    exact .inr ⟨_, text, refusal, _, _, fetched, shown, refused, rfl, parts, rfl⟩
  | _ => exact .inl rfl

theorem fault_atomic_and_final (machine : Machine) (running : machine.halted = false) :
    (∀ fault, machine.step.1 = .error fault →
      machine.step.2.core = machine.core ∧ machine.step.2.halted ∧
      (machine.step.2.console = machine.console ∨ machine.CutShort fault machine.step.2)) ∧
    (machine.step.1 ≠ .ok .running → ∀ calls : List Call,
      machine.step.2.afterCalls calls = machine.step.2 ∧
      (machine.step.2.afterCalls calls).step.1 = .ok .halted) := by
  have steps := stepsTo_step running
  constructor
  · intro fault faulted
    have halted := steps.halted (by rw [faulted]; exact nofun)
    rw [faulted] at steps
    exact ⟨steps.core_eq, halted, steps.console_eq⟩
  · intro stopped calls
    have halted := steps.halted stopped
    rw [afterCalls_halted halted, step_halted halted]
    exact ⟨rfl, rfl⟩

theorem fault_atomic_and_final_limited :
    let machine := ((loaded { device := .limited 1 } [0x82, 0, 0xE9, 0x48, 0, 1]).after 1)
    machine.halted = false ∧ machine.step.1 = .error (.io "console full") ∧
      machine.step.2.core = machine.core ∧ machine.step.2.console.written = ⟨#[0xC3]⟩ ∧
      machine.step.2.afterCalls [.step, .run 5, .step] = machine.step.2 := by
  intro machine
  have running : machine.halted = false := by decide +kernel
  have faulted : machine.step.1 = .error (.io "console full") := by decide +kernel
  obtain ⟨atomic, final⟩ := fault_atomic_and_final machine running
  have stopped : machine.step.1 ≠ .ok .running := by
    rw [faulted]
    exact nofun
  exact ⟨running, faulted, (atomic _ faulted).1, by decide +kernel, (final stopped _).1⟩

end Machine
end ByteMachine
