import ByteMachine.Proofs.Semantics.Bounds
import ByteMachine.Proofs.Semantics.ShadowStack
import ByteMachine.Proofs.Semantics.StepOutcome

/-! Where an instruction may leave a mark, told opcode by opcode: the one cell that it writes, the
registers that it may change, whether it touches the flags, and where the program goes on. All
else is as it was before. -/

namespace ByteMachine

theorem Register.val_of_ofByte {operand : UInt8} {register : Register}
    (named : Register.ofByte operand = .ok register) : register.val = operand.toNat := by
  unfold ofByte at named
  split at named
  · cases named
    rfl
  · cases named

namespace Processor

variable {processor : Processor} {operand : UInt8} {register : Register}

def lowered? (processor : Processor) (operand : UInt8) : Option UInt8 :=
  if operand = 7 then some (processor.stackTop - 1) else processor.registers[operand.toNat]?

theorem lowered?_of_ofByte (processor : Processor)
    (named : Register.ofByte operand = .ok register) :
    processor.lowered? operand = some (processor.lowerStack.get register) := by
  have value := Register.val_of_ofByte named
  rw [get_lowerStack, lowered?]
  by_cases pointer : register = .stackPointer
  · rw [if_pos pointer, if_pos (Register.eq_of_ofByte_stackPointer (pointer ▸ named))]
  · have other : operand ≠ 7 := by
      rintro rfl
      exact pointer (Fin.ext value)
    rw [if_neg pointer, if_neg other, processor.getElem?_of_ofByte named]

theorem get_lowerStack_of_ne (h : register ≠ .stackPointer) :
    processor.lowerStack.get register = processor.get register := by
  rw [get_lowerStack, if_neg h]

theorem get_raiseStack_of_ne (h : register ≠ .stackPointer) :
    processor.raiseStack.get register = processor.get register := by
  rw [raiseStack, get_set, if_neg (Ne.symm h)]

end Processor

namespace Core

variable {core : Core}

theorem get_push (core : Core) (value cell : UInt8) :
    (core.push value).memory.get cell =
      if cell = core.processor.stackTop - 1 then value else core.memory.get cell := by
  simp only [push, Memory.get_set, Processor.stackTop_lowerStack, eq_comm]

theorem pc_advance (room : core.processor.pc.toNat + 3 < 2 ^ 64) (opcode : Opcode) :
    (core.advance opcode).processor.pc.toNat = core.processor.pc.toNat + opcode.width.toNat := by
  have narrow := opcode.width_le
  change (core.processor.pc + opcode.width).toNat = _
  rw [UInt64.toNat_add, Nat.mod_eq_of_lt (by omega)]

theorem back_eq (core : Core) :
    (core.processor.pc + Opcode.width .call).toUInt8 =
      UInt8.ofNat (core.processor.pc.toNat + 2) := by
  have width : (Opcode.width .call).toNat = 2 := rfl
  rw [← UInt8.toNat_inj, UInt64.toNat_toUInt8, UInt64.toNat_add, UInt8.toNat_ofNat', width]
  omega

end Core

namespace Opcode

def cell? (opcode : Opcode) (first second : UInt8) (core : Core) (cell : UInt8) : Option UInt8 :=
  let below := core.processor.stackTop - 1
  match opcode with
  | .st => if cell = first then some second else some (core.memory.get cell)
  | .push => if cell = below then core.processor.lowered? first else some (core.memory.get cell)
  | .call =>
    if cell = below then some (UInt8.ofNat (core.processor.pc.toNat + 2))
    else some (core.memory.get cell)
  | _ => some (core.memory.get cell)

def Alters (opcode : Opcode) (first : UInt8) (register : Register) : Prop :=
  match opcode with
  | .ldi | .ld | .unary .inc | .unary .dec | .binary _ => register.val = first.toNat
  | .push | .call | .ret => register = .stackPointer
  | .pop => register.val = first.toNat ∨ register = .stackPointer
  | _ => False

def next? (opcode : Opcode) (first : UInt8) (core : Core) : Option Nat :=
  let onward := core.processor.pc.toNat + opcode.width.toNat
  match opcode with
  | .jmp => core.processor.registers[first.toNat]?.map UInt8.toNat
  | .branch condition =>
    if core.processor.satisfies condition then
      core.processor.registers[first.toNat]?.map UInt8.toNat
    else some onward
  | .call => (core.processor.lowered? first).map UInt8.toNat
  | .ret => some (core.memory.get core.processor.stackTop).toNat
  | _ => some onward

structure Footprint (opcode : Opcode) (first second : UInt8) (core after : Core) : Prop where
  cells : ∀ cell, opcode.cell? first second core cell = some (after.memory.get cell)
  registers : ∀ register, ¬ opcode.Alters first register →
    after.processor.get register = core.processor.get register
  flags : opcode ≠ .cmp → after.processor.flags = core.processor.flags
  pc : opcode.next? first core = some after.processor.pc.toNat

namespace Proceeds

variable {opcode : Opcode} {first second : UInt8} {core after : Core} {printed : Option String}

theorem cell?_eq (h : opcode.Proceeds first second core after printed) (cell : UInt8) :
    opcode.cell? first second core cell = some (after.memory.get cell) := by
  cases h with
  | st =>
    have stored := Memory.get_set core.memory first cell second
    simp only [cell?, eq_comm, ← apply_ite some]
    exact congrArg some stored.symm
  | @push source named =>
    have pushed := core.get_push (core.processor.lowerStack.get source) cell
    simp only [cell?, core.processor.lowered?_of_ofByte named, ← apply_ite some]
    exact congrArg some pushed.symm
  | call named =>
    have pushed := core.get_push (core.processor.pc + width .call).toUInt8 cell
    simp only [cell?, ← core.back_eq, ← apply_ite some]
    exact congrArg some pushed.symm
  | _ => rfl

theorem get_eq (h : opcode.Proceeds first second core after printed) {register : Register}
    (kept : ¬ opcode.Alters first register) :
    after.processor.get register = core.processor.get register := by
  have spared {target : Register} (named : Register.ofByte first = .ok target)
      (other : register.val ≠ first.toNat) (value : UInt8) :
      (core.processor.set target value).get register = core.processor.get register := by
    rw [Processor.get_set, if_neg]
    rintro rfl
    exact other (Register.val_of_ofByte named)
  cases h with
  | ldi named | ld _ named | binary named => exact spared named kept _
  | push | call => exact Processor.get_lowerStack_of_ne kept
  | ret => exact Processor.get_raiseStack_of_ne kept
  | pop named =>
    obtain ⟨other, above⟩ := not_or.1 kept
    exact (Processor.get_raiseStack_of_ne above).trans (spared named other _)
  | @unary operation target named =>
    cases operation with
    | inc | dec => exact spared named kept _
    -- what is written is what was there
    | not =>
      have written := core.processor.get_set target register (core.processor.get target)
      refine written.trans ?_
      split
      · rename_i same
        rw [same]
      · rfl
  | _ => rfl

theorem flags_eq (h : opcode.Proceeds first second core after printed) (other : opcode ≠ .cmp) :
    after.processor.flags = core.processor.flags := by
  cases h with
  | cmp => exact absurd rfl other
  | _ => rfl

theorem next?_eq (h : opcode.Proceeds first second core after printed)
    (room : core.processor.pc.toNat + 3 < 2 ^ 64) :
    opcode.next? first core = some after.processor.pc.toNat := by
  have jumped (core : Core) (target : UInt8) :
      (core.jump target).processor.pc.toNat = target.toNat := UInt8.toNat_toUInt64 target
  cases h with
  | call named =>
    rw [next?, core.processor.lowered?_of_ofByte named, jumped]
    rfl
  | ret =>
    rw [jumped]
    rfl
  | jmp named =>
    rw [next?, core.processor.getElem?_of_ofByte named, jumped]
    rfl
  | taken met named =>
    rw [next?, if_pos met, core.processor.getElem?_of_ofByte named, jumped]
    rfl
  | skipped unmet =>
    have passed : ¬ core.processor.satisfies _ = true := ne_true_of_eq_false unmet
    rw [next?, if_neg passed, core.pc_advance room]
  | _ => exact congrArg some (Core.pc_advance room _).symm

theorem footprint (h : opcode.Proceeds first second core after printed)
    (room : core.processor.pc.toNat + 3 < 2 ^ 64) :
    opcode.Footprint first second core after where
  cells := h.cell?_eq
  registers _ := h.get_eq
  flags := h.flags_eq
  pc := h.next?_eq room

end Proceeds
end Opcode

namespace Instruction

variable {instruction : Instruction} {core after : Core} {console later : Console}

/-- Either nothing has happened, or all of the effect has. -/
theorem effect_of_execute {status : Status}
    (h : instruction.execute core console = (.ok status, after, later)) :
    (status = .halted ∧ instruction.effect core = .ok .halt ∧ after = core ∧ later = console) ∨
      (status = .running ∧ ∃ printed, instruction.effect core = .ok (.proceed after printed) ∧
        console.offer printed = (.ok (), later)) := by
  rw [execute, run_perform] at h
  dsimp only at h
  rcases effect : instruction.effect core with fault | _ | ⟨proceeded, printed⟩ <;>
    rw [effect] at h
  · cases h
  · cases h
    exact .inl ⟨rfl, rfl, rfl, rfl⟩
  · rcases offered : console.offer printed with ⟨_ | _, shown⟩ <;>
      simp only [Hardware.commit, offered] at h
    · cases h
    · cases h
      exact .inr ⟨rfl, printed, rfl, offered⟩

/-- An instruction that goes on leaves its marks where its opcode says and adds its own text to
the console, and one that does not go on is a halt and leaves none. -/
theorem execute_footprint (instruction : Instruction) (core after : Core)
    (console later : Console) (room : core.processor.pc.toNat + 3 < 2 ^ 64) :
    (instruction.execute core console = (.ok .running, after, later) →
      ∃ opcode, instruction.opcode? = some opcode ∧
        opcode.Footprint instruction.first instruction.second core after ∧
        later = { console with written := console.written ++
          ((instruction.text? core.processor).getD "").toUTF8 }) ∧
    (instruction.execute core console = (.ok .halted, after, later) →
      instruction.opcode? = some .hlt ∧ after = core ∧ later = console) := by
  constructor
  · intro executed
    rcases effect_of_execute executed with ⟨halted, _⟩ | ⟨-, printed, effect, offered⟩
    · cases halted
    obtain ⟨opcode, decoded, proceeds⟩ := proceeds_of_effect effect
    refine ⟨opcode, decoded, proceeds.footprint room, ?_⟩
    rw [← printed_eq_text? effect]
    exact Console.offer_ok offered
  · intro executed
    rcases effect_of_execute executed with ⟨-, effect, same⟩ | ⟨running, _⟩
    · exact ⟨(effect_eq_halt_iff core).1 effect, same⟩
    · cases running

theorem execute_footprint_call :
    let core : Core := { processor := { pc := 300, registers := Vector.replicate 8 0 } }
    let result := execute ⟨0x50, 7, 0⟩ core {}
    core.processor.pc.toNat + 3 < 2 ^ 64 ∧ result.1 = .ok .running ∧
      result.2.1.memory.get 255 = 46 ∧ result.2.1.memory.get 0 = 0 ∧
      result.2.1.processor.get 0 = 0 ∧ result.2.1.processor.pc.toNat = 255 := by
  intro core result
  have room : core.processor.pc.toNat + 3 < 2 ^ 64 := by decide
  have running : result.1 = .ok .running := by decide +kernel
  have executed : result = (.ok .running, result.2.1, result.2.2) := Prod.ext running rfl
  obtain ⟨opcode, decoded, footprint, _⟩ :=
    (execute_footprint ⟨0x50, 7, 0⟩ core result.2.1 {} result.2.2 room).1 executed
  obtain rfl : Opcode.call = opcode := Option.some.inj decoded
  have written : Opcode.call.cell? 7 0 core 255 = some 46 := by decide
  have kept : Opcode.call.cell? 7 0 core 0 = some 0 := by decide
  have target : Opcode.call.next? 7 core = some 255 := by decide
  exact ⟨room, running, Option.some.inj ((footprint.cells 255).symm.trans written),
    Option.some.inj ((footprint.cells 0).symm.trans kept), footprint.registers 0 nofun,
    Option.some.inj (footprint.pc.symm.trans target)⟩

end Instruction
end ByteMachine
