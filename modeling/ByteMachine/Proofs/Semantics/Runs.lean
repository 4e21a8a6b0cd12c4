import ByteMachine.Proofs.Semantics.EffectCases
import ByteMachine.Proofs.Semantics.StepCases

/-! A machine after any number of steps. Once it has halted nothing changes any more, so that a
machine still running has only ever answered that it is. A run makes the steps up to the first one
with another answer. -/

namespace ByteMachine

theorem toNat_add_near {pc offset : UInt64} (low : pc.toNat ≤ 256)
    (near : offset.toNat ≤ 3) : (pc + offset).toNat = pc.toNat + offset.toNat := by
  rw [UInt64.toNat_add]
  omega

theorem Memory.lt_of_read {memory : Memory} {address : UInt64} {byte : UInt8}
    (h : memory.read address = .ok byte) : address.toNat < 256 := by
  unfold read at h
  split at h
  · assumption
  · cases h

theorem Instruction.pc_lt_of_fetch {memory : Memory} {address : UInt64} {instruction : Instruction}
    (h : Instruction.fetch memory address = .ok instruction) : address.toNat < 254 := by
  obtain ⟨code, first, h⟩ := Fault.exists_of_bind h
  obtain ⟨operand, second, h⟩ := Fault.exists_of_bind h
  obtain ⟨other, third, h⟩ := Fault.exists_of_bind h
  have low := Memory.lt_of_read first
  have high := Memory.lt_of_read third
  rw [UInt64.toNat_add, show (2 : UInt64).toNat = 2 from rfl] at high
  omega

namespace Machine

def loaded (console : Console) (program : List UInt8) : Machine :=
  (({ console } : Machine).load program).2

/-- After so many calls of `step`, whatever came of them. -/
def after (machine : Machine) : Nat → Machine
  | 0 => machine
  | n + 1 => (machine.after n).step.2

theorem after_step (machine : Machine) (n : Nat) :
    machine.step.2.after n = machine.after (n + 1) := by
  induction n with
  | zero => rfl
  | succ n ih => rw [after, ih, after.eq_2 machine (n + 1)]

theorem after_add (machine : Machine) (m n : Nat) :
    (machine.after m).after n = machine.after (m + n) := by
  induction n with
  | zero => rfl
  | succ n ih => exact congrArg (fun machine : Machine => machine.step.2) ih

variable {machine : Machine}

theorem pc_lt_of_fetch {instruction : Instruction} (h : machine.fetch = .ok instruction) :
    machine.pc.toNat < 254 :=
  Instruction.pc_lt_of_fetch h

theorem pc_lt_size {instruction : Instruction} (h : machine.fetch = .ok instruction) :
    machine.pc.toNat < 256 :=
  Nat.lt_trans (pc_lt_of_fetch h) (by decide)

theorem halted_of_step (halted : machine.halted) : machine.step.2.halted := by
  rw [step_halted halted]
  exact halted

theorem after_eq_of_halted {m n : Nat} (le : m ≤ n) (halted : (machine.after m).halted) :
    machine.after n = machine.after m := by
  induction le with
  | refl => rfl
  | step _ ih => rw [after, ih, step_halted halted]

theorem halted_after_of_le {m n : Nat} (le : m ≤ n) (halted : (machine.after m).halted) :
    (machine.after n).halted := by
  rwa [after_eq_of_halted le halted]

theorem running_of_le {m n : Nat} (le : m ≤ n) (running : (machine.after n).halted = false) :
    (machine.after m).halted = false := by
  cases halted : (machine.after m).halted with
  | false => rfl
  | true => rw [halted_after_of_le le halted] at running; exact running

theorem running_of_step (h : machine.step.1 = .ok .running) :
    machine.halted = false := by
  cases halted : machine.halted with
  | false => rfl
  | true => rw [step_halted halted] at h; cases h

theorem exists_of_running (h : machine.step.1 = .ok .running) :
    ∃ instruction printed, machine.fetch = .ok instruction ∧
      instruction.effect machine.core = .ok (.proceed machine.step.2.core printed) := by
  have steps := stepsTo_step (running_of_step h)
  rw [h] at steps
  generalize machine.step.2 = after at steps ⊢
  cases steps with
  | proceeding fetched compared effect offered => exact ⟨_, _, fetched, effect⟩

/-- The first step after which the machine is not running any more. -/
structure StopsAt (machine : Machine) (k : Nat) : Prop where
  running : ∀ i < k, (machine.after i).step.1 = .ok .running
  stops : (machine.after k).step.1 ≠ .ok .running

variable {k fuel : Nat}

theorem stopsAt_succ_iff :
    machine.StopsAt (k + 1) ↔ machine.step.1 = .ok .running ∧ machine.step.2.StopsAt k := by
  constructor
  · intro h
    refine ⟨h.running 0 (Nat.zero_lt_succ k), fun i lt => ?_, ?_⟩
    · rw [after_step]
      exact h.running (i + 1) (Nat.succ_lt_succ lt)
    · rw [after_step]
      exact h.stops
  · rintro ⟨first, rest⟩
    refine ⟨fun i lt => ?_, ?_⟩
    · cases i with
      | zero => exact first
      | succ i =>
        rw [← after_step]
        exact rest.running i (Nat.lt_of_succ_lt_succ lt)
    · rw [← after_step]
      exact rest.stops

theorem advance_running (first : machine.step.1 = .ok .running) (fuel : Nat) :
    machine.advance (fuel + 1) = machine.step.2.advance fuel := by
  rw [advance]
  split <;> rename_i step <;> rw [step] at first ⊢
  · cases first
  · cases first

theorem advance_stopped (stopped : machine.step.1 ≠ .ok .running) (fuel : Nat) :
    machine.advance (fuel + 1) = (some (machine.step.1.map fun _ => ()), machine.step.2) := by
  rw [advance]
  split <;> rename_i step <;> rw [step] at stopped ⊢
  · exact absurd rfl stopped
  · rfl
  · rfl

theorem StopsAt.halted (h : machine.StopsAt k) : (machine.after (k + 1)).halted := by
  cases running : (machine.after k).halted with
  | true => exact halted_of_step running
  | false => exact (stepsTo_step running).halted h.stops

theorem StopsAt.advance_eq (h : machine.StopsAt k) (lt : k < fuel) :
    machine.advance fuel =
      (some ((machine.after k).step.1.map fun _ => ()), machine.after (k + 1)) := by
  induction fuel generalizing machine k with
  | zero => cases lt
  | succ fuel ih =>
    cases k with
    | zero => exact advance_stopped h.stops fuel
    | succ k =>
      obtain ⟨first, rest⟩ := stopsAt_succ_iff.1 h
      rw [advance_running first, ih rest (Nat.lt_of_succ_lt_succ lt), after_step, after_step]

theorem StopsAt.run_eq (h : machine.StopsAt k) (lt : k < fuel) :
    (machine.run fuel).1 = some ((machine.after k).step.1.bind fun _ =>
      (machine.after (k + 1)).console.flush) := by
  rw [run, h.advance_eq lt]
  cases (machine.after k).step.1 <;> rfl

theorem isSome_run : (machine.run fuel).1.isSome = (machine.advance fuel).1.isSome := by
  unfold run
  split
  · rename_i advanced
    rw [advanced]
    rfl
  · rename_i advanced
    rw [advanced]

theorem exists_stopsAt (ends : (machine.advance fuel).1.isSome) :
    ∃ k < fuel, machine.StopsAt k := by
  induction fuel generalizing machine with
  | zero => cases ends
  | succ fuel ih =>
    by_cases first : machine.step.1 = .ok .running
    · rw [advance_running first] at ends
      obtain ⟨k, lt, rest⟩ := ih ends
      exact ⟨k + 1, Nat.succ_lt_succ lt, stopsAt_succ_iff.2 ⟨first, rest⟩⟩
    · exact ⟨0, Nat.zero_lt_succ fuel, nofun, first⟩

theorem exists_stopsAt_of_halted {m : Nat} (halted : (machine.after m).halted) :
    ∃ k ≤ m, machine.StopsAt k := by
  induction m generalizing machine with
  | zero =>
    have halted : machine.halted := halted
    refine ⟨0, Nat.le_refl 0, nofun, ?_⟩
    rw [after, step_halted halted]
    exact nofun
  | succ m ih =>
    by_cases first : machine.step.1 = .ok .running
    · rw [← after_step] at halted
      obtain ⟨k, le, rest⟩ := ih halted
      exact ⟨k + 1, Nat.succ_le_succ le, stopsAt_succ_iff.2 ⟨first, rest⟩⟩
    · exact ⟨0, Nat.zero_le _, nofun, first⟩

theorem run_snd (fuel : Nat) (machine : Machine) :
    (machine.run fuel).2 = (machine.advance fuel).2 := by
  unfold run
  split
  · rename_i advanced
    rw [advanced]
  · rename_i advanced
    rw [advanced]

theorem run_of_halted {m : Nat} (halted : (machine.after m).halted) (lt : m < fuel) :
    (machine.run fuel).1.isSome ∧ (machine.run fuel).2 = machine.after m := by
  obtain ⟨k, le, stops⟩ := exists_stopsAt_of_halted halted
  have advanced := stops.advance_eq (Nat.lt_of_le_of_lt le lt)
  rw [isSome_run, run_snd, advanced]
  refine ⟨rfl, ?_⟩
  rcases Nat.lt_or_eq_of_le le with early | rfl
  · exact (after_eq_of_halted early stops.halted).symm
  · exact after_eq_of_halted (Nat.le_succ k) halted

end Machine
end ByteMachine
