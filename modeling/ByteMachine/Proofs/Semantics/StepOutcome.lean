import ByteMachine.Proofs.Semantics.Runs

/-! What a step comes to, told from the bytes at the program counter and the registers without
executing anything: which operands have to name a register, in which order they are looked at, and
which divisors are refused. -/

namespace ByteMachine

/-- The first operand past the last register is reported, and without one the rest counts. -/
def requireRegisters (operands : List UInt8) (rest : Except Fault Status) : Except Fault Status :=
  match operands.find? (8 ≤ ·) with
  | some operand => .error (.outOfBounds .register operand.toUInt64)
  | none => rest

theorem requireRegisters_eq_error {operands : List UInt8} {rest : Except Fault Status}
    {fault : Fault} (h : requireRegisters operands rest = .error fault) :
    (∃ operand : UInt8, fault = .outOfBounds .register operand.toUInt64) ∨ rest = .error fault := by
  unfold requireRegisters at h
  split at h
  · exact .inl ⟨_, (Except.error.inj h).symm⟩
  · exact .inr h

theorem Memory.read_of_toNat {memory : Memory} {address : UInt64} {n : Nat}
    (same : address.toNat = n) (h : n < 256) : memory.read address = .ok memory.cells[n] := by
  subst same
  exact dif_pos h

def Effect.status : Effect → Status
  | .halt => .halted
  | .proceed _ _ => .running

theorem status_bind_ofByte {operand : UInt8} {operands : List UInt8}
    {next : Register → Except Fault Effect} {rest : Except Fault Status}
    (h : ∀ register, Register.ofByte operand = .ok register →
      (next register).map Effect.status = requireRegisters operands rest) :
    (Register.ofByte operand >>= next).map Effect.status =
      requireRegisters (operand :: operands) rest := by
  unfold Register.ofByte at h ⊢
  split
  · rename_i low
    have skipped : ¬ 8 ≤ operand := by rw [UInt8.le_iff_toNat_le]; exact Nat.not_le_of_gt low
    rw [requireRegisters, List.find?_cons_of_neg (by simpa only [decide_eq_true_eq])]
    exact h _ (dif_pos low)
  · rename_i high
    have reported : 8 ≤ operand := UInt8.le_iff_toNat_le.2 (Nat.le_of_not_lt high)
    rw [requireRegisters, List.find?_cons_of_pos (by simpa only [decide_eq_true_eq])]
    rfl

theorem Processor.getElem?_of_ofByte (processor : Processor) {operand : UInt8}
    {register : Register} (named : Register.ofByte operand = .ok register) :
    processor.registers[operand.toNat]? = some (processor.get register) := by
  unfold Register.ofByte at named
  split at named
  · cases named
    exact Vector.getElem?_eq_getElem _
  · cases named

namespace Opcode

def registerOperands (opcode : Opcode) (first second : UInt8) (processor : Processor) :
    List UInt8 :=
  match opcode with
  | .nop | .hlt | .ret | .st => []
  | .ldi | .prn | .pra | .push | .pop | .call | .jmp | .unary _ => [first]
  | .ld => [second, first]
  | .binary _ | .cmp => [first, second]
  | .branch condition => if processor.satisfies condition then [first] else []

def outcome (opcode : Opcode) (first second : UInt8) (processor : Processor) :
    Except Fault Status :=
  let zero := processor.registers[second.toNat]? = some 0
  requireRegisters (opcode.registerOperands first second processor) <|
    match opcode with
    | .hlt => .ok .halted
    | .binary .div => if zero then .error .divisionByZero else .ok .running
    | .binary .mod => if zero then .error .moduloByZero else .ok .running
    | _ => .ok .running

theorem outcome_eq_error {opcode : Opcode} {first second : UInt8} {processor : Processor}
    {fault : Fault} (h : opcode.outcome first second processor = .error fault) :
    (∃ operand : UInt8, fault = .outOfBounds .register operand.toUInt64) ∨
      fault = .divisionByZero ∨ fault = .moduloByZero := by
  refine (requireRegisters_eq_error h).imp_right fun refused => ?_
  split at refused
  · cases refused
  · split at refused <;> cases refused
    exact .inl rfl
  · split at refused <;> cases refused
    exact .inr rfl
  · cases refused

theorem status_effect (opcode : Opcode) (first second : UInt8) (core : Core) :
    (opcode.effect first second core).map Effect.status =
      opcode.outcome first second core.processor := by
  cases opcode with
  | nop | hlt | st | ret => rfl
  | ldi | prn | pra | push | pop | call | jmp => exact status_bind_ofByte fun _ _ => rfl
  | unary =>
    simp only [effect, Processor.calculate, bind_assoc]
    exact status_bind_ofByte fun _ _ => rfl
  | ld => exact status_bind_ofByte fun _ _ => status_bind_ofByte fun _ _ => rfl
  | branch condition =>
    simp only [effect, outcome, registerOperands]
    split
    · exact status_bind_ofByte fun _ _ => rfl
    · rfl
  | cmp =>
    simp only [effect, Processor.calculate, bind_assoc]
    exact status_bind_ofByte fun _ _ => status_bind_ofByte fun _ _ => rfl
  | binary operation =>
    simp only [effect, Processor.calculate, bind_assoc]
    refine status_bind_ofByte fun target _ => status_bind_ofByte fun source other => ?_
    have divisor := core.processor.getElem?_of_ofByte other
    cases operation with
    | div | mod =>
      simp only [Binary.apply, divisor, Option.some.injEq]
      split <;> rfl
    | _ => rfl

end Opcode

theorem Instruction.status_effect (instruction : Instruction) (core : Core) :
    (instruction.effect core).map Effect.status =
      match instruction.opcode? with
      | none => .error (.unknownOpcode instruction.code core.processor.pc)
      | some opcode => opcode.outcome instruction.first instruction.second core.processor := by
  rw [effect, opcode]
  cases instruction.opcode? with
  | none => rfl
  | some opcode => exact opcode.status_effect ..

namespace Machine

variable {machine : Machine}

def outcome (machine : Machine) : Except Fault Status :=
  let pc := machine.pc.toNat
  let cells := machine.core.memory.cells
  if h : pc < 254 then
    match Opcode.ofByte? cells[pc] with
    | none => .error (.unknownOpcode cells[pc] machine.pc)
    | some opcode => opcode.outcome cells[pc + 1] cells[pc + 2] machine.core.processor
  else .error (.outOfBounds .memory 256)

theorem fetch_of_lt (below : machine.pc.toNat < 254) :
    machine.fetch = .ok ⟨machine.core.memory.cells[machine.pc.toNat],
      machine.core.memory.cells[machine.pc.toNat + 1],
      machine.core.memory.cells[machine.pc.toNat + 2]⟩ := by
  have next : (machine.pc + 1).toNat = machine.pc.toNat + 1 :=
    toNat_add_near (by omega) (by decide)
  have last : (machine.pc + 2).toNat = machine.pc.toNat + 2 :=
    toNat_add_near (by omega) (by decide)
  rw [fetch, Instruction.fetch, Memory.read_of_toNat rfl (by omega),
    Memory.read_of_toNat next (by omega), Memory.read_of_toNat last (by omega)]
  rfl

theorem fetch_of_ge (above : 254 ≤ machine.pc.toNat) (low : machine.pc.toNat ≤ 256) :
    machine.fetch = .error (.outOfBounds .memory 256) := by
  obtain at254 | at255 | at256 : machine.pc = 254 ∨ machine.pc = 255 ∨ machine.pc = 256 := by
    simp only [← UInt64.toNat_inj, show (254 : UInt64).toNat = 254 from rfl,
      show (255 : UInt64).toNat = 255 from rfl, show (256 : UInt64).toNat = 256 from rfl]
    omega
  · rw [fetch, at254]
    rfl
  · rw [fetch, at255]
    rfl
  · rw [fetch, at256]
    rfl

theorem step_fst_eq (running : machine.halted = false) (unlogged : machine.log = none)
    (reliable : machine.console.Reliable) :
    machine.step.1 =
      machine.fetch >>= fun instruction => (instruction.effect machine.core).map Effect.status := by
  have steps := stepsTo_step running
  generalize machine.step.1 = result at steps ⊢
  generalize machine.step.2 = after at steps
  cases steps with
  | unfetched fetched =>
    rw [fetched]
    rfl
  | differing fetched compared =>
    rw [compared_of_unlogged unlogged] at compared
    cases compared
  | faulting fetched compared effect | halting fetched compared effect =>
    rw [fetched]
    exact (congrArg (Except.map Effect.status) effect).symm
  | unprinted fetched compared effect offered =>
    rw [reliable.offer] at offered
    cases offered
  | proceeding fetched compared effect offered =>
    rw [fetched]
    exact (congrArg (Except.map Effect.status) effect).symm

theorem step_eq_outcome (machine : Machine) (running : machine.halted = false)
    (low : machine.pc.toNat ≤ 256) (unlogged : machine.log = none)
    (reliable : machine.console.Reliable) :
    machine.step.1 = machine.outcome ∧
    (machine.step.1 = .ok .halted → machine.step.2.pc = machine.pc) ∧
    (∀ instruction, machine.fetch = .ok instruction →
      ∀ address, machine.step.1 ≠ .error (.outOfBounds .memory address)) ∧
    (∀ opcode, machine.step.1 ≠ .error (.notArithmetic opcode)) ∧
    ∀ opcode : Opcode, opcode.isArithmetic → ∀ first second other,
      machine.core.processor.calculate opcode first second ≠ .error (.notArithmetic other) := by
  have whole : machine.step.1 = machine.outcome := by
    rw [step_fst_eq running unlogged reliable, outcome]
    split
    · rename_i below
      rw [fetch_of_lt below]
      exact Instruction.status_effect ..
    · rename_i above
      rw [fetch_of_ge (Nat.le_of_not_lt above) low]
      rfl
  refine ⟨whole, fun halting => ?_, fun instruction fetched address => ?_, fun opcode => ?_,
    fun opcode arithmetic first second other refused => ?_⟩
  · have steps := stepsTo_step running
    rw [halting] at steps
    generalize machine.step.2 = after at steps ⊢
    cases steps
    rfl
  · rw [whole, outcome, dif_pos (pc_lt_of_fetch fetched)]
    split
    · exact nofun
    · intro missing
      rcases Opcode.outcome_eq_error missing with ⟨_, same⟩ | same | same <;> cases same
  · rw [whole, outcome]
    split
    · split
      · exact nofun
      · intro refused
        rcases Opcode.outcome_eq_error refused with ⟨_, same⟩ | same | same <;> cases same
    · exact nofun
  · exact nomatch OwnFaults.calculate arithmetic _ _ _ _ refused

theorem step_eq_outcome_load :
    let machine := loaded {} [0x83, 9, 10]
    machine.halted = false ∧ machine.pc.toNat ≤ 256 ∧ machine.log = none ∧
      machine.console.Reliable ∧ machine.step.1 = .error (.outOfBounds .register 10) := by
  intro machine
  have reliable : machine.console.Reliable := fun _ _ => rfl
  have outcome := (step_eq_outcome machine rfl (by decide) rfl reliable).1
  exact ⟨rfl, by decide, rfl, reliable, outcome.trans (by decide +kernel)⟩

end Machine
end ByteMachine
