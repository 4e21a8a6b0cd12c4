import Mathlib.Data.Nat.Count
import Mathlib.Data.Nat.Find
import ByteMachine.Proofs.Semantics.Bounds

/-! How long a run can go on without jumping. An instruction is fetched only below the last cells of
memory, and one that does not say itself where to go on moves the program counter up, whatever the
program has made of itself in the meantime. -/

namespace ByteMachine

namespace Opcode

def redirects (opcode : Opcode) (processor : Processor) : Bool :=
  match opcode with
  | .call | .ret | .jmp => true
  | .branch condition => processor.satisfies condition
  | _ => false

theorem width_pos (opcode : Opcode) : 0 < opcode.width.toNat := by
  unfold width
  split <;> decide

end Opcode

theorem Core.pc_lt_advance (core : Core) (opcode : Opcode)
    (low : core.processor.pc.toNat < 254) :
    core.processor.pc.toNat < (core.advance opcode).processor.pc.toNat := by
  have sum := toNat_add_near (Nat.le_of_lt (Nat.lt_trans low (by decide))) opcode.width_le
  have wide := opcode.width_pos
  change core.processor.pc.toNat < (core.processor.pc + opcode.width).toNat
  omega

theorem Opcode.Proceeds.pc_lt {opcode : Opcode} {first second : UInt8} {core after : Core}
    {printed : Option String} (h : opcode.Proceeds first second core after printed)
    (straight : opcode.redirects core.processor = false) (low : core.processor.pc.toNat < 254) :
    core.processor.pc.toNat < after.processor.pc.toNat := by
  cases h with
  | call | ret | jmp => cases straight
  | taken met named => exact nomatch met.symm.trans straight
  | _ => exact Core.pc_lt_advance _ _ low

namespace Machine

def Transfers (machine : Machine) : Prop :=
  machine.step.1 = .ok .running ∧ ∃ instruction, machine.fetch = .ok instruction ∧
    instruction.opcode?.any (·.redirects machine.core.processor)

instance (machine : Machine) : Decidable machine.Transfers :=
  inferInstanceAs (Decidable (_ ∧ _))

def transfers (machine : Machine) (n : Nat) : Nat :=
  Nat.count (fun i => (machine.after i).Transfers) n

variable {machine : Machine}

theorem pc_lt_of_running (running : machine.step.1 = .ok .running) : machine.pc.toNat < 254 := by
  obtain ⟨instruction, printed, fetched, effect⟩ := exists_of_running running
  exact pc_lt_of_fetch fetched

theorem pc_lt_step (running : machine.step.1 = .ok .running) (straight : ¬ machine.Transfers) :
    machine.pc.toNat < machine.step.2.pc.toNat := by
  obtain ⟨instruction, printed, fetched, effect⟩ := exists_of_running running
  obtain ⟨opcode, decoded, proceeds⟩ := Instruction.proceeds_of_effect effect
  refine proceeds.pc_lt ?_ (pc_lt_of_fetch fetched)
  rw [← Bool.not_eq_true]
  intro redirects
  refine straight ⟨running, instruction, fetched, ?_⟩
  rw [decoded]
  exact redirects

theorem transfers_succ (machine : Machine) (n : Nat) :
    machine.transfers (n + 1) =
      machine.transfers n + if (machine.after n).Transfers then 1 else 0 :=
  Nat.count_succ ..

/-- Every stretch of memory that a run climbs is paid for by the transfer that took it back. -/
theorem le_transfers_add_pc {n : Nat} (running : ∀ i < n, (machine.after i).step.1 = .ok .running) :
    n ≤ 254 * machine.transfers n + (machine.after n).pc.toNat := by
  induction n with
  | zero => exact Nat.zero_le _
  | succ n ih =>
    have earlier := ih fun i lt => running i (Nat.lt_succ_of_lt lt)
    have last := running n (Nat.lt_succ_self n)
    have low := pc_lt_of_running last
    rw [transfers_succ]
    by_cases transfer : (machine.after n).Transfers
    · rw [if_pos transfer]
      omega
    · have climbs : (machine.after n).pc.toNat < (machine.after (n + 1)).pc.toNat :=
        pc_lt_step last transfer
      rw [if_neg transfer]
      omega

theorem le_of_transfers_le {n k : Nat}
    (running : ∀ i < n, (machine.after i).step.1 = .ok .running) (few : machine.transfers n ≤ k) :
    n ≤ 254 * (k + 1) := by
  cases n with
  | zero => exact Nat.zero_le _
  | succ n =>
    have earlier := le_transfers_add_pc fun i lt => running i (Nat.lt_succ_of_lt lt)
    have low := pc_lt_of_running (running n (Nat.lt_succ_self n))
    have most := Nat.le_trans (Nat.count_monotone _ (Nat.le_succ n)) few
    change machine.transfers n ≤ k at most
    have stretches := Nat.mul_le_mul_left 254 most
    omega

theorem exists_stopsAt_le {m : Nat} (stops : (machine.after m).step.1 ≠ .ok .running) :
    ∃ k ≤ m, machine.StopsAt k := by
  classical
  have stopping : ∃ k, (machine.after k).step.1 ≠ .ok .running := ⟨m, stops⟩
  refine ⟨Nat.find stopping, Nat.find_min' stopping stops, fun i lt => ?_, Nat.find_spec stopping⟩
  exact Decidable.not_not.1 (Nat.find_min stopping lt)

theorem exists_stopsAt_of_transfers_le {k : Nat}
    (few : machine.transfers (254 * (k + 1) + 1) ≤ k) : ∃ m ≤ 254 * (k + 1), machine.StopsAt m := by
  by_cases running : ∀ i < 254 * (k + 1) + 1, (machine.after i).step.1 = .ok .running
  · have short := le_of_transfers_le running few
    omega
  · simp only [not_forall] at running
    obtain ⟨m, lt, stops⟩ := running
    obtain ⟨first, le, stopsAt⟩ := exists_stopsAt_le stops
    exact ⟨first, Nat.le_trans le (Nat.le_of_lt_succ lt), stopsAt⟩

theorem transfers_eq_zero {n : Nat} :
    machine.transfers n = 0 ↔ ∀ i < n, ¬ (machine.after i).Transfers := by
  simp only [transfers, Nat.count_iff_forall_not]

theorem steps_bounded_by_transfers (machine : Machine) (k : Nat) :
    (∀ n, (∀ i < n, (machine.after i).step.1 = .ok .running) → machine.transfers n ≤ k →
      n ≤ 254 * (k + 1)) ∧
    (machine.transfers (254 * (k + 1) + 1) ≤ k → ∃ m ≤ 254 * (k + 1), machine.StopsAt m ∧
      (machine.after (m + 1)).halted ∧ ∀ fuel, m < fuel → (machine.run fuel).1.isSome) ∧
    ((∀ i < 255, ¬ (machine.after i).Transfers) → ∃ m < 255, machine.StopsAt m) := by
  refine ⟨fun n running few => le_of_transfers_le running few, fun few => ?_, fun straight => ?_⟩
  · obtain ⟨m, le, stops⟩ := exists_stopsAt_of_transfers_le few
    refine ⟨m, le, stops, stops.halted, fun fuel lt => ?_⟩
    rw [stops.run_eq lt]
    rfl
  · have none : machine.transfers (254 * (0 + 1) + 1) ≤ 0 :=
      Nat.le_of_eq (transfers_eq_zero.2 straight)
    obtain ⟨m, le, stops⟩ := exists_stopsAt_of_transfers_le none
    exact ⟨m, Nat.lt_succ_of_le le, stops⟩

theorem steps_bounded_by_transfers_overwriting :
    let machine := loaded {} [0x84, 4, 0x01]
    (∀ i < 2, (machine.after i).step.1 = .ok .running) ∧ machine.transfers 2 ≤ 0 ∧
      2 ≤ 254 * (0 + 1) ∧ (∀ i < 255, ¬ (machine.after i).Transfers) ∧ machine.StopsAt 2 := by
  intro machine
  have running : ∀ i < 2, (machine.after i).step.1 = .ok .running := by decide +kernel
  have straight : ∀ i < 255, ¬ (machine.after i).Transfers := by
    have early : ∀ i < 4, ¬ (machine.after i).Transfers := by decide +kernel
    have halted : (machine.after 3).halted := by decide +kernel
    intro i _
    rcases Nat.lt_or_ge i 3 with before | late
    · exact early i (Nat.lt_succ_of_lt before)
    · rw [after_eq_of_halted late halted]
      exact early 3 (by decide)
  have none : machine.transfers 2 ≤ 0 :=
    Nat.le_of_eq (transfers_eq_zero.2 fun i lt => straight i (Nat.lt_trans lt (by decide)))
  obtain ⟨bound, _, ends⟩ := steps_bounded_by_transfers machine 0
  obtain ⟨m, _, stops⟩ := ends straight
  obtain rfl : m = 2 := by
    have late : ¬ m < 2 := fun early => stops.stops (running m early)
    have soon : ¬ 2 < m := fun past => absurd (stops.running 2 past) (by decide +kernel)
    omega
  exact ⟨running, none, bound 2 running none, straight, stops⟩

end Machine
end ByteMachine
