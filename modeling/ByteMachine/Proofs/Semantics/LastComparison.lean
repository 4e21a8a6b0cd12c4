import ByteMachine.Proofs.Semantics.StepOutcome

/-! Branches look back to the last comparison that was completed, however long ago that is and
whatever has become of the registers since. Nothing else touches the flags, and what they keep of
the two values is their order. -/

namespace ByteMachine

/-- How a value has to lie to another one for the condition to be met. -/
def Condition.Holds : Condition → UInt8 → UInt8 → Prop
  | .equal, x, y => x = y
  | .notEqual, x, y => x ≠ y
  | .greater, x, y => x > y
  | .less, x, y => x < y
  | .lessOrEqual, x, y => x ≤ y
  | .greaterOrEqual, x, y => x ≥ y

namespace Processor

variable {processor other : Processor}

theorem satisfies_congr (same : processor.flags = other.flags) (condition : Condition) :
    processor.satisfies condition = other.satisfies condition := by
  cases condition <;> simp only [satisfies, isEqual, isGreater, isLess, same]

theorem flags_compare_cases (processor : Processor) (x y : UInt8) :
    x = y ∧ (processor.compare x y).flags = equalBit ∨
    y < x ∧ (processor.compare x y).flags = greaterBit ∨
    x < y ∧ (processor.compare x y).flags = lessBit := by
  unfold compare
  by_cases same : x = y
  · exact .inl ⟨same, if_pos same⟩
  · by_cases greater : y < x
    · exact .inr (.inl ⟨greater, by simp only [if_neg same, if_pos greater]⟩)
    · have less : x < y := UInt8.lt_of_le_of_ne (UInt8.not_lt.1 greater) same
      exact .inr (.inr ⟨less, by simp only [if_neg same, if_neg greater]⟩)

variable {x y : UInt8}

theorem isEqual_compare : (processor.compare x y).isEqual ↔ x = y := by
  unfold isEqual
  rcases processor.flags_compare_cases x y with ⟨order, flags⟩ | ⟨order, flags⟩ | ⟨order, flags⟩ <;>
    rw [flags]
  · exact iff_of_true (by decide) order
  · exact iff_of_false (by decide) (UInt8.ne_of_lt order).symm
  · exact iff_of_false (by decide) (UInt8.ne_of_lt order)

theorem isGreater_compare : (processor.compare x y).isGreater ↔ y < x := by
  unfold isGreater
  rcases processor.flags_compare_cases x y with ⟨order, flags⟩ | ⟨order, flags⟩ | ⟨order, flags⟩ <;>
    rw [flags]
  · exact iff_of_false (by decide) (order ▸ UInt8.lt_irrefl x)
  · exact iff_of_true (by decide) order
  · exact iff_of_false (by decide) (UInt8.lt_asymm order)

theorem isLess_compare : (processor.compare x y).isLess ↔ x < y := by
  unfold isLess
  rcases processor.flags_compare_cases x y with ⟨order, flags⟩ | ⟨order, flags⟩ | ⟨order, flags⟩ <;>
    rw [flags]
  · exact iff_of_false (by decide) (order ▸ UInt8.lt_irrefl x)
  · exact iff_of_false (by decide) (UInt8.lt_asymm order)
  · exact iff_of_true (by decide) order

theorem satisfies_compare (processor : Processor) (condition : Condition) :
    (processor.compare x y).satisfies condition ↔ condition.Holds x y := by
  cases condition with
  | equal => exact isEqual_compare
  | notEqual =>
    simp only [satisfies, Bool.not_eq_true', ← Bool.not_eq_true, isEqual_compare]
    rfl
  | greater => exact isGreater_compare
  | less => exact isLess_compare
  | lessOrEqual =>
    simp only [satisfies, Bool.or_eq_true, isEqual_compare, isLess_compare]
    exact or_comm.trans UInt8.le_iff_lt_or_eq.symm
  | greaterOrEqual =>
    simp only [satisfies, Bool.or_eq_true, isEqual_compare, isGreater_compare]
    rw [eq_comm]
    exact or_comm.trans UInt8.le_iff_lt_or_eq.symm

theorem satisfies_of_flags_eq_zero (fresh : processor.flags = 0) (condition : Condition) :
    processor.satisfies condition ↔ condition = .notEqual := by
  cases condition <;> simp [satisfies, isEqual, isGreater, isLess, fresh] <;> decide

end Processor

theorem Instruction.effect_of_opcode {instruction : Instruction} {opcode : Opcode}
    (decoded : instruction.opcode? = some opcode) (core : Core) :
    instruction.effect core = opcode.effect instruction.first instruction.second core := by
  rw [effect, Instruction.opcode, decoded]
  rfl

namespace Machine

open Text (LineSource)

def Executes (machine : Machine) (instruction : Instruction) : Prop :=
  machine.halted = false ∧ machine.fetch = .ok instruction ∧
    (machine.compared instruction).1 = .ok ()

def CompletesComparison (machine : Machine) : Prop :=
  ∃ instruction, machine.fetch = .ok instruction ∧ instruction.opcode? = some .cmp ∧
    machine.step.1 = .ok .running

instance (machine : Machine) : Decidable machine.CompletesComparison :=
  outcomeDecidableExists machine.fetch fun instruction =>
    instruction.opcode? = some .cmp ∧ machine.step.1 = .ok .running

def Compares (machine : Machine) (x y : UInt8) : Prop :=
  ∃ instruction, machine.fetch = .ok instruction ∧
    machine.core.processor.registers[instruction.first.toNat]? = some x ∧
    machine.core.processor.registers[instruction.second.toNat]? = some y

def flags (machine : Machine) : UInt8 :=
  machine.core.processor.flags

variable {machine : Machine}

theorem flags_of_completes (h : machine.CompletesComparison) :
    ∃ x y, machine.Compares x y ∧
      machine.step.2.flags = (machine.core.processor.compare x y).flags := by
  obtain ⟨instruction, fetched, cmp, running⟩ := h
  obtain ⟨executed, printed, same, effect⟩ := exists_of_running running
  obtain rfl : instruction = executed := Except.ok.inj (fetched.symm.trans same)
  obtain ⟨opcode, decoded, proceeds⟩ := Instruction.proceeds_of_effect effect
  obtain rfl : Opcode.cmp = opcode := Option.some.inj (cmp.symm.trans decoded)
  unfold flags
  generalize machine.step.2.core = after at proceeds ⊢
  cases proceeds with
  | cmp named other =>
    exact ⟨_, _, ⟨instruction, fetched, machine.core.processor.getElem?_of_ofByte named,
      machine.core.processor.getElem?_of_ofByte other⟩, rfl⟩

theorem flags_of_not_completes (h : ¬ machine.CompletesComparison) :
    machine.step.2.flags = machine.flags := by
  cases halted : machine.halted with
  | true => rw [step_halted halted]
  | false =>
    have steps := stepsTo_step halted
    generalize answer : machine.step.1 = result at steps
    unfold flags
    generalize machine.step.2 = after at steps ⊢
    cases steps with
    | proceeding fetched compared effect offered =>
      obtain ⟨opcode, decoded, proceeds⟩ := Instruction.proceeds_of_effect effect
      cases proceeds with
      | cmp => exact absurd ⟨_, fetched, decoded, answer⟩ h
      | _ => rfl
    | _ => rfl

theorem flags_after_of_none {n : Nat} (h : ∀ i < n, ¬ (machine.after i).CompletesComparison) :
    (machine.after n).flags = machine.flags := by
  induction n with
  | zero => rfl
  | succ n ih =>
    have earlier := ih fun i lt => h i (Nat.lt_succ_of_lt lt)
    exact (flags_of_not_completes (h n (Nat.lt_succ_self n))).trans earlier

theorem flags_after_of_last {i n : Nat} (before : i < n)
    (last : ∀ j, i < j → j < n → ¬ (machine.after j).CompletesComparison) :
    (machine.after n).flags = (machine.after (i + 1)).flags := by
  obtain ⟨m, rfl⟩ : ∃ m, n = i + 1 + m := Nat.exists_eq_add_of_le before
  rw [← after_add]
  refine flags_after_of_none fun j lt => ?_
  rw [after_add]
  exact last (i + 1 + j) (by omega) (by omega)

/-- To where the register says. Without such a register the machine stops where it is. -/
def Jumps (machine : Machine) (instruction : Instruction) : Prop :=
  (∀ h : instruction.first.toNat < 8, machine.step.1 = .ok .running ∧
    machine.step.2.pc = machine.core.processor.registers[instruction.first.toNat].toUInt64) ∧
  (8 ≤ instruction.first.toNat →
    machine.step.1 = .error (.outOfBounds .register instruction.first.toUInt64) ∧
      machine.step.2.pc = machine.pc)

def PassesBranch (machine : Machine) : Prop :=
  machine.step.1 = .ok .running ∧ machine.step.2.pc.toNat = machine.pc.toNat + 2

variable {instruction : Instruction} {condition : Condition}

theorem jumps_of_executes (executes : machine.Executes instruction)
    (branch : instruction.opcode? = some (.branch condition))
    (met : machine.core.processor.satisfies condition) : machine.Jumps instruction := by
  obtain ⟨running, fetched, compared⟩ := executes
  have compared : machine.compared instruction = (.ok (), (machine.compared instruction).2) :=
    Prod.ext compared rfl
  have taken : instruction.effect machine.core = do
      let target ← Register.ofByte instruction.first
      return machine.core.goto (machine.core.processor.get target) := by
    rw [Instruction.effect_of_opcode branch, Opcode.effect, if_pos met]
  constructor
  · intro low
    rw [Register.ofByte, dif_pos low] at taken
    have steps : machine.StepsTo _ _ := .proceeding fetched compared taken rfl
    rw [steps.step_eq running]
    exact ⟨rfl, rfl⟩
  · intro high
    rw [Register.ofByte, dif_neg (Nat.not_lt_of_le high)] at taken
    have steps : machine.StepsTo _ _ := .faulting fetched compared taken
    rw [steps.step_eq running]
    exact ⟨rfl, rfl⟩

theorem passesBranch_of_executes (executes : machine.Executes instruction)
    (branch : instruction.opcode? = some (.branch condition))
    (unmet : ¬ machine.core.processor.satisfies condition) : machine.PassesBranch := by
  obtain ⟨running, fetched, compared⟩ := executes
  have below := pc_lt_of_fetch fetched
  have compared : machine.compared instruction = (.ok (), (machine.compared instruction).2) :=
    Prod.ext compared rfl
  have passed : instruction.effect machine.core = .ok (machine.core.next (.branch condition)) := by
    rw [Instruction.effect_of_opcode branch, Opcode.effect, if_neg unmet]
    rfl
  have steps : machine.StepsTo _ _ := .proceeding fetched compared passed rfl
  rw [PassesBranch, steps.step_eq running]
  have next : (machine.pc + 2).toNat = machine.pc.toNat + 2 :=
    toNat_add_near (by omega) (by decide)
  exact ⟨rfl, next⟩

theorem branch_follows_last_comparison (console : Console) (program : List UInt8)
    (log : Option LineSource) (n : Nat) (instruction : Instruction) (condition : Condition)
    (executes : (({ loaded console program with log } : Machine).after n).Executes instruction)
    (branch : instruction.opcode? = some (.branch condition)) :
    let machine : Machine := { loaded console program with log }
    let now := machine.after n
    let taken := now.core.processor.satisfies condition = true
    (∀ i < n, (machine.after i).CompletesComparison →
      (∀ j, i < j → j < n → ¬ (machine.after j).CompletesComparison) →
      ∃ x y, (machine.after i).Compares x y ∧ (taken ↔ condition.Holds x y)) ∧
    ((∀ i < n, ¬ (machine.after i).CompletesComparison) → (taken ↔ condition = .notEqual)) ∧
    (taken → now.Jumps instruction) ∧ (¬ taken → now.PassesBranch) := by
  intro machine now taken
  refine ⟨fun i before completes last => ?_, fun none => ?_, jumps_of_executes executes branch,
    passesBranch_of_executes executes branch⟩
  · obtain ⟨x, y, compares, flags⟩ := flags_of_completes completes
    have kept : now.flags = _ := (flags_after_of_last before last).trans flags
    have same : now.core.processor.satisfies condition = _ :=
      Processor.satisfies_congr kept condition
    exact ⟨x, y, compares, (Bool.eq_iff_iff.1 same).trans (Processor.satisfies_compare _ condition)⟩
  · exact Processor.satisfies_of_flags_eq_zero (flags_after_of_none none) condition

/-- The register that was greater has been overwritten since, and the branch that is taken for it
names no register. -/
theorem branch_follows_last_comparison_overwritten :
    let program := [0x82, 0, 5, 0xA7, 0, 1, 0x82, 0, 0, 0x57, 9]
    let machine : Machine := { loaded {} program with log := none }
    let now := machine.after 3
    now.Executes ⟨0x57, 9, 0⟩ ∧ (∃ x y, (machine.after 1).Compares x y ∧ x > y) ∧
      now.step.1 = .error (.outOfBounds .register 9) ∧ now.step.2.pc = now.pc := by
  intro program machine now
  have executes : now.Executes ⟨0x57, 9, 0⟩ :=
    ⟨by decide +kernel, by decide +kernel, by decide +kernel⟩
  obtain ⟨last, _, jumps, _⟩ := branch_follows_last_comparison {} program none 3 ⟨0x57, 9, 0⟩
    .greater executes (by decide)
  have none : ∀ j, 1 < j → j < 3 → ¬ (machine.after j).CompletesComparison := by
    intro j low high
    obtain rfl : j = 2 := by omega
    decide +kernel
  obtain ⟨x, y, compares, order⟩ := last 1 (by decide) (by decide +kernel) none
  obtain ⟨fault, stays⟩ := (jumps (by decide +kernel)).2 (by decide)
  exact ⟨executes, ⟨x, y, compares, order.1 (by decide +kernel)⟩, fault, stays⟩

end Machine
end ByteMachine
