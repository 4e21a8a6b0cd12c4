import ByteMachine.Proofs.Semantics.Runs
import ByteMachine.Proofs.Trace.LineRoundTrip

/-! How far the program counter can get. Nothing checks it: an instruction is fetched only where
three bytes of memory are left, is no wider than that, and jumps no further than a byte reaches.
Up to there no address that is worked out from the counter goes round. -/

namespace ByteMachine

theorem Opcode.width_le (opcode : Opcode) : opcode.width.toNat ≤ 3 := by
  unfold width
  split <;> decide

/-- At most one past the last cell, and the flags of no comparison yet or of one. -/
structure Processor.Bounded (processor : Processor) : Prop where
  pc : processor.pc.toNat ≤ 256
  flags : processor.flags ∈ [0, 1, 2, 4]

namespace Core

variable {core after : Core}

theorem bounded_advance (opcode : Opcode) (low : core.processor.pc.toNat < 254)
    (flags : core.processor.flags ∈ [0, 1, 2, 4]) : (core.advance opcode).processor.Bounded where
  pc := by
    have near := opcode.width_le
    have sum := toNat_add_near (Nat.le_of_lt (Nat.lt_trans low (by decide))) near
    change (core.processor.pc + opcode.width).toNat ≤ 256
    omega
  flags := flags

theorem bounded_jump (target : UInt8) (flags : core.processor.flags ∈ [0, 1, 2, 4]) :
    (core.jump target).processor.Bounded where
  pc := by
    change target.toUInt64.toNat ≤ 256
    rw [UInt8.toNat_toUInt64]
    exact Nat.le_of_lt target.toNat_lt
  flags := flags

end Core

theorem Processor.flags_compare_mem (processor : Processor) (left right : UInt8) :
    (processor.compare left right).flags ∈ [0, 1, 2, 4] := by
  unfold compare
  dsimp only
  split
  · decide
  · split <;> decide

theorem Opcode.Proceeds.bounded {opcode : Opcode} {first second : UInt8} {core after : Core}
    {printed : Option String} (h : opcode.Proceeds first second core after printed)
    (bounded : core.processor.Bounded) (low : core.processor.pc.toNat < 254) :
    after.processor.Bounded := by
  cases h with
  | call | ret | jmp | taken => exact Core.bounded_jump _ bounded.flags
  | cmp => exact Core.bounded_advance _ low (Processor.flags_compare_mem ..)
  | _ => exact Core.bounded_advance _ low bounded.flags

namespace Machine

variable {machine : Machine}

theorem bounded_step (bounded : machine.core.processor.Bounded) :
    machine.step.2.core.processor.Bounded := by
  cases halted : machine.halted with
  | true =>
    rw [step_halted halted]
    exact bounded
  | false =>
    have steps := stepsTo_step halted
    generalize machine.step.1 = result at steps
    generalize machine.step.2 = after at steps ⊢
    cases steps with
    | proceeding fetched compared effect offered =>
      obtain ⟨opcode, decoded, proceeds⟩ := Instruction.proceeds_of_effect effect
      exact proceeds.bounded bounded (pc_lt_of_fetch fetched)
    | _ => exact bounded

theorem bounded_after (bounded : machine.core.processor.Bounded) (n : Nat) :
    (machine.after n).core.processor.Bounded := by
  induction n with
  | zero => exact bounded
  | succ n ih => exact bounded_step ih

end Machine

def Memory.readAt (memory : Memory) (address : Nat) : Except Fault UInt8 :=
  match memory.cells[address]? with
  | some byte => .ok byte
  | none => .error (.outOfBounds .memory (UInt64.ofNat address))

theorem Memory.read_eq_readAt (memory : Memory) (address : UInt64) :
    memory.read address = memory.readAt address.toNat := by
  unfold read readAt
  split
  · rename_i inside
    rw [Vector.getElem?_eq_getElem inside]
  · rename_i outside
    rw [Vector.getElem?_eq_none (Nat.le_of_not_lt outside), UInt64.ofNat_toNat]

def Instruction.fetchAt (memory : Memory) (address : Nat) : Except Fault Instruction := do
  return ⟨← memory.readAt address, ← memory.readAt (address + 1), ← memory.readAt (address + 2)⟩

def Memory.shownAt (memory : Memory) (address : Nat) : UInt8 :=
  memory.cells[address]?.getD 0

theorem Memory.shownAt_of_read {memory : Memory} {address : UInt64} {byte : UInt8}
    (read : memory.read address = .ok byte) : memory.shownAt address.toNat = byte := by
  have inside := lt_of_read read
  rw [Memory.read, dif_pos inside] at read
  rw [shownAt, Vector.getElem?_eq_getElem inside]
  exact Except.ok.inj read

theorem Memory.shownAt_of_read_error {memory : Memory} {address : UInt64} {fault : Fault}
    (read : memory.read address = .error fault) : memory.shownAt address.toNat = 0 := by
  have outside := (read_eq_error_iff.1 read).1
  rw [shownAt, Vector.getElem?_eq_none outside]
  rfl

namespace Machine

/-- Numbers without a limit give the same as the words of the machine in everything that is worked
out from the program counter. -/
structure Unwrapped (machine : Machine) : Prop where
  window : ∀ i < 3, (machine.pc + UInt64.ofNat i).toNat = machine.pc.toNat + i
  fetched : machine.fetch = Instruction.fetchAt machine.core.memory machine.pc.toNat
  shown : machine.traceLine = Trace.line machine.core.processor
    ⟨machine.core.memory.shownAt machine.pc.toNat,
      machine.core.memory.shownAt (machine.pc.toNat + 1),
      machine.core.memory.shownAt (machine.pc.toNat + 2)⟩
  advanced : ∀ opcode : Opcode,
    (machine.core.advance opcode).processor.pc.toNat = machine.pc.toNat + opcode.width.toNat
  back : (machine.pc + Opcode.width .call).toNat = machine.pc.toNat + 2
  returned : ∀ instruction, machine.fetch = .ok instruction →
    instruction.opcode? = some .call → machine.step.1 = .ok .running →
    (machine.step.2.core.memory.get machine.step.2.core.processor.stackTop).toNat =
      machine.pc.toNat + 2
  traced : ∀ instruction, machine.fetch = .ok instruction → ∃ high low rest,
    high ∈ Text.hexAlphabet ∧ low ∈ Text.hexAlphabet ∧
      (Trace.line machine.core.processor instruction).toList =
        Trace.tag ++ [' ', high, low, ' ', '|'] ++ rest

variable {machine : Machine}

theorem fetch_eq_fetchAt (low : machine.pc.toNat ≤ 256) :
    machine.fetch = Instruction.fetchAt machine.core.memory machine.pc.toNat := by
  have second : (machine.pc + 1).toNat = machine.pc.toNat + 1 := toNat_add_near low (by decide)
  have third : (machine.pc + 2).toNat = machine.pc.toNat + 2 := toNat_add_near low (by decide)
  simp only [fetch, Instruction.fetch, Memory.read_eq_readAt, second, third]
  rfl

theorem traceLine_eq_shownAt (low : machine.pc.toNat ≤ 256) :
    machine.traceLine = Trace.line machine.core.processor
      ⟨machine.core.memory.shownAt machine.pc.toNat,
        machine.core.memory.shownAt (machine.pc.toNat + 1),
        machine.core.memory.shownAt (machine.pc.toNat + 2)⟩ := by
  have second : (machine.pc + 1).toNat = machine.pc.toNat + 1 := toNat_add_near low (by decide)
  have third : (machine.pc + 2).toNat = machine.pc.toNat + 2 := toNat_add_near low (by decide)
  rw [← second, ← third]
  refine congrArg (Trace.line _) ((Instruction.mk.injEq ..).mpr ⟨?_, ?_, ?_⟩)
  all_goals
    dsimp only
    split <;> rename_i read
    · exact (Memory.shownAt_of_read read).symm
    · exact (Memory.shownAt_of_read_error read).symm

/-- The cell written is the one that the stack then starts with, and the address behind the call
fits in it because the call itself had to be fetched. -/
theorem top_of_call {instruction : Instruction} (fetched : machine.fetch = .ok instruction)
    (call : instruction.opcode? = some .call) (running : machine.step.1 = .ok .running) :
    (machine.step.2.core.memory.get machine.step.2.core.processor.stackTop).toNat =
      machine.pc.toNat + 2 := by
  have below := pc_lt_of_fetch fetched
  obtain ⟨executed, printed, same, effect⟩ := exists_of_running running
  obtain rfl : instruction = executed := Except.ok.inj (fetched.symm.trans same)
  obtain ⟨opcode, decoded, proceeds⟩ := Instruction.proceeds_of_effect effect
  obtain rfl : Opcode.call = opcode := Option.some.inj (call.symm.trans decoded)
  generalize machine.step.2.core = after at proceeds ⊢
  cases proceeds with
  | call named =>
    have stored := Memory.get_set machine.core.memory machine.core.processor.lowerStack.stackTop
      machine.core.processor.lowerStack.stackTop (machine.pc + Opcode.width .call).toUInt8
    rw [if_pos rfl] at stored
    refine (congrArg UInt8.toNat stored).trans ?_
    have back : (machine.pc + Opcode.width .call).toNat = machine.pc.toNat + 2 :=
      toNat_add_near (Nat.le_of_lt (Nat.lt_trans below (by decide))) (Opcode.width_le .call)
    rw [UInt64.toNat_toUInt8, back]
    omega

theorem unwrapped_of_bounded (bounded : machine.core.processor.Bounded) : machine.Unwrapped where
  window i lt := by
    have small : (UInt64.ofNat i).toNat = i :=
      UInt64.toNat_ofNat_of_lt' (Nat.lt_trans lt (by decide))
    have sum : (machine.pc + UInt64.ofNat i).toNat =
        machine.pc.toNat + (UInt64.ofNat i).toNat := toNat_add_near bounded.pc (by omega)
    rwa [small] at sum
  fetched := fetch_eq_fetchAt bounded.pc
  shown := traceLine_eq_shownAt bounded.pc
  advanced opcode := toNat_add_near bounded.pc opcode.width_le
  back := toNat_add_near bounded.pc (Opcode.width_le .call)
  returned _ := top_of_call
  traced instruction fetched := by
    obtain ⟨high, low, hexHigh, hexLow, digits⟩ := Text.hexPair_eq (pc_lt_size fetched)
    refine ⟨high, low, Trace.bytesText instruction ++
      '|' :: Trace.registersText machine.core.processor, hexHigh, hexLow, ?_⟩
    rw [Trace.toList_line, Trace.pcText_eq, ← pc, digits]
    simp only [List.append_assoc, List.cons_append, List.nil_append]

end Machine
end ByteMachine
