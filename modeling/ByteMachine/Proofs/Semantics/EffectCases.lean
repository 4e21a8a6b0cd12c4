import ByteMachine.Proofs.Semantics.CommittedEffect

/-! All that an instruction can do when it neither halts nor meets a fault, one rule for each
opcode and two for the branches, the text that it prints, and the faults that it can meet. -/

namespace ByteMachine

theorem Fault.exists_of_bind {α β : Type} {action : Except Fault α} {next : α → Except Fault β}
    {result : β} (h : action >>= next = .ok result) :
    ∃ value, action = .ok value ∧ next value = .ok result := by
  cases action with
  | error fault => cases h
  | ok value => exact ⟨value, rfl, h⟩

inductive Fault.OfInstruction : Fault → Prop where
  | noCell (address : UInt64) : OfInstruction (.outOfBounds .memory address)
  | unknownOpcode (byte : UInt8) (pc : UInt64) : OfInstruction (.unknownOpcode byte pc)
  | noRegister (byte : UInt8) : OfInstruction (.outOfBounds .register byte.toUInt64)
  | divisionByZero : OfInstruction .divisionByZero
  | moduloByZero : OfInstruction .moduloByZero

def OwnFaults {α : Type} (action : Except Fault α) : Prop :=
  ∀ fault, action = .error fault → fault.OfInstruction

namespace OwnFaults

variable {α β : Type}

theorem ok (value : α) : OwnFaults (.ok value) :=
  nofun

theorem error {fault : Fault} (h : fault.OfInstruction) :
    OwnFaults (.error fault : Except Fault α) := by
  intro other same
  cases same
  exact h

theorem bind {action : Except Fault α} {next : α → Except Fault β} (first : OwnFaults action)
    (rest : ∀ value, OwnFaults (next value)) : OwnFaults (action >>= next) := by
  intro fault h
  cases action with
  | error other =>
    cases h
    exact first _ rfl
  | ok value => exact rest value fault h

theorem read (memory : Memory) (address : UInt64) : OwnFaults (memory.read address) := by
  intro fault h
  rw [(Memory.read_eq_error_iff.1 h).2]
  exact .noCell address

theorem fetch (memory : Memory) (address : UInt64) :
    OwnFaults (Instruction.fetch memory address) :=
  bind (read memory _) fun _ => bind (read memory _) fun _ => bind (read memory _) fun _ => ok _

theorem ofByte (byte : UInt8) : OwnFaults (Register.ofByte byte) := by
  unfold Register.ofByte
  split
  · exact ok _
  · exact error (.noRegister byte)

theorem apply (operation : Binary) (left right : UInt8) :
    OwnFaults (operation.apply left right) := by
  cases operation with
  | div =>
    rw [Binary.apply]
    split
    · exact error .divisionByZero
    · exact ok _
  | mod =>
    rw [Binary.apply]
    split
    · exact error .moduloByZero
    · exact ok _
  | _ => exact ok _

theorem calculate {opcode : Opcode} (arithmetic : opcode.isArithmetic) (processor : Processor)
    (first second : UInt8) : OwnFaults (processor.calculate opcode first second) := by
  cases opcode with
  | unary operation => exact bind (ofByte first) fun _ => ok _
  | binary operation =>
    exact bind (ofByte first) fun _ => bind (ofByte second) fun _ =>
      bind (apply operation _ _) fun _ => ok _
  | cmp => exact bind (ofByte first) fun _ => bind (ofByte second) fun _ => ok _
  | _ => cases arithmetic

end OwnFaults

namespace Core

def set (core : Core) (target : Register) (value : UInt8) : Core :=
  { core with processor := core.processor.set target value }

def store (core : Core) (cell value : UInt8) : Core :=
  { core with memory := core.memory.set cell value }

def compare (core : Core) (left right : UInt8) : Core :=
  { core with processor := core.processor.compare left right }

end Core

namespace Opcode

inductive Proceeds (first second : UInt8) (core : Core) :
    Opcode → Core → Option String → Prop where
  | nop : Proceeds first second core .nop (core.advance .nop) none
  | ldi {target : Register} (named : Register.ofByte first = .ok target) :
      Proceeds first second core .ldi ((core.set target second).advance .ldi) none
  | ld {source target : Register} (other : Register.ofByte second = .ok source)
      (named : Register.ofByte first = .ok target) :
      Proceeds first second core .ld
        ((core.set target (core.memory.get (core.processor.get source))).advance .ld) none
  | st : Proceeds first second core .st ((core.store first second).advance .st) none
  | prn {source : Register} (named : Register.ofByte first = .ok source) :
      Proceeds first second core .prn (core.advance .prn)
        (some (Text.decimal (core.processor.get source).toNat ++ "\n"))
  | pra {source : Register} (named : Register.ofByte first = .ok source) :
      Proceeds first second core .pra (core.advance .pra)
        (some (String.singleton (Char.ofUInt8 (core.processor.get source))))
  | push {source : Register} (named : Register.ofByte first = .ok source) :
      Proceeds first second core .push
        ((core.push (core.processor.lowerStack.get source)).advance .push) none
  | pop {target : Register} (named : Register.ofByte first = .ok target) :
      Proceeds first second core .pop
        ((core.set target core.top).drop.advance .pop) none
  | call {source : Register} (named : Register.ofByte first = .ok source) :
      Proceeds first second core .call
        ((core.push (core.processor.pc + width .call).toUInt8).jump
          (core.processor.lowerStack.get source)) none
  | ret : Proceeds first second core .ret (core.drop.jump core.top) none
  | jmp {source : Register} (named : Register.ofByte first = .ok source) :
      Proceeds first second core .jmp (core.jump (core.processor.get source)) none
  | taken {condition : Condition} {source : Register}
      (met : core.processor.satisfies condition = true)
      (named : Register.ofByte first = .ok source) :
      Proceeds first second core (.branch condition) (core.jump (core.processor.get source)) none
  | skipped {condition : Condition} (unmet : core.processor.satisfies condition = false) :
      Proceeds first second core (.branch condition) (core.advance (.branch condition)) none
  | unary {operation : Unary} {target : Register} (named : Register.ofByte first = .ok target) :
      Proceeds first second core (.unary operation)
        ((core.set target (operation.apply (core.processor.get target))).advance (.unary operation))
        none
  | binary {operation : Binary} {target source : Register} {value : UInt8}
      (named : Register.ofByte first = .ok target) (other : Register.ofByte second = .ok source)
      (applied : operation.apply (core.processor.get target) (core.processor.get source) =
        .ok value) :
      Proceeds first second core (.binary operation)
        ((core.set target value).advance (.binary operation)) none
  | cmp {left right : Register} (named : Register.ofByte first = .ok left)
      (other : Register.ofByte second = .ok right) :
      Proceeds first second core .cmp
        ((core.compare (core.processor.get left) (core.processor.get right)).advance .cmp) none

variable {opcode : Opcode} {first second : UInt8} {core after : Core} {printed : Option String}

theorem proceeds_of_effect (h : opcode.effect first second core = .ok (.proceed after printed)) :
    opcode.Proceeds first second core after printed := by
  cases opcode with
  | nop =>
    cases h
    exact .nop
  | hlt => cases h
  | ldi =>
    obtain ⟨target, named, h⟩ := Fault.exists_of_bind h
    cases h
    exact .ldi named
  | ld =>
    obtain ⟨source, other, h⟩ := Fault.exists_of_bind h
    obtain ⟨target, named, h⟩ := Fault.exists_of_bind h
    cases h
    exact .ld other named
  | st =>
    cases h
    exact .st
  | prn =>
    obtain ⟨source, named, h⟩ := Fault.exists_of_bind h
    cases h
    exact .prn named
  | pra =>
    obtain ⟨source, named, h⟩ := Fault.exists_of_bind h
    cases h
    exact .pra named
  | push =>
    obtain ⟨source, named, h⟩ := Fault.exists_of_bind h
    cases h
    exact .push named
  | pop =>
    obtain ⟨target, named, h⟩ := Fault.exists_of_bind h
    cases h
    exact .pop named
  | call =>
    obtain ⟨source, named, h⟩ := Fault.exists_of_bind h
    cases h
    exact .call named
  | ret =>
    cases h
    exact .ret
  | jmp =>
    obtain ⟨source, named, h⟩ := Fault.exists_of_bind h
    cases h
    exact .jmp named
  | branch condition =>
    cases met : core.processor.satisfies condition with
    | true =>
      simp only [effect, met, if_true] at h
      obtain ⟨source, named, h⟩ := Fault.exists_of_bind h
      cases h
      exact .taken met named
    | false =>
      simp only [effect, met, Bool.false_eq_true, if_false] at h
      cases h
      exact .skipped met
  -- arithmetic takes its operands apart one level further down
  | unary operation =>
    obtain ⟨processor, calculated, h⟩ := Fault.exists_of_bind h
    obtain ⟨target, named, calculated⟩ := Fault.exists_of_bind calculated
    cases calculated
    cases h
    exact .unary named
  | binary operation =>
    obtain ⟨processor, calculated, h⟩ := Fault.exists_of_bind h
    obtain ⟨target, named, calculated⟩ := Fault.exists_of_bind calculated
    obtain ⟨source, other, calculated⟩ := Fault.exists_of_bind calculated
    obtain ⟨value, applied, calculated⟩ := Fault.exists_of_bind calculated
    cases calculated
    cases h
    exact .binary named other applied
  | cmp =>
    obtain ⟨processor, calculated, h⟩ := Fault.exists_of_bind h
    obtain ⟨left, named, calculated⟩ := Fault.exists_of_bind calculated
    obtain ⟨right, other, calculated⟩ := Fault.exists_of_bind calculated
    cases calculated
    cases h
    exact .cmp named other

open OwnFaults in
theorem ownFaults_effect (opcode : Opcode) (first second : UInt8) (core : Core) :
    OwnFaults (opcode.effect first second core) := by
  cases opcode with
  | nop | hlt | st | ret => exact ok _
  | ldi | prn | pra | push | pop | call | jmp => exact bind (ofByte first) fun _ => ok _
  | ld => exact bind (ofByte second) fun _ => bind (ofByte first) fun _ => ok _
  | branch condition =>
    simp only [effect]
    split
    · exact bind (ofByte first) fun _ => ok _
    · exact ok _
  | unary | binary | cmp => exact bind (calculate rfl _ first second) fun _ => ok _

theorem eq_hlt_of_effect (h : opcode.effect first second core = .ok .halt) : opcode = .hlt := by
  cases opcode with
  | hlt => rfl
  | nop | st | ret => cases h
  | ldi | prn | pra | push | pop | call | jmp =>
    obtain ⟨_, _, h⟩ := Fault.exists_of_bind h
    cases h
  | ld =>
    obtain ⟨_, _, h⟩ := Fault.exists_of_bind h
    obtain ⟨_, _, h⟩ := Fault.exists_of_bind h
    cases h
  | branch condition =>
    simp only [effect] at h
    split at h
    · obtain ⟨_, _, h⟩ := Fault.exists_of_bind h
      cases h
    · cases h
  | unary | binary | cmp =>
    obtain ⟨_, _, h⟩ := Fault.exists_of_bind h
    cases h

end Opcode

namespace Instruction

def text? (instruction : Instruction) (processor : Processor) : Option String :=
  match instruction.opcode?, Register.ofByte instruction.first with
  | some .prn, .ok source => some (Text.decimal (processor.get source).toNat ++ "\n")
  | some .pra, .ok source => some (String.singleton (Char.ofUInt8 (processor.get source)))
  | _, _ => none

variable {instruction : Instruction} {core after : Core} {printed : Option String}

theorem opcode?_of_opcode {opcode : Opcode} {pc : UInt64} (h : instruction.opcode pc = .ok opcode) :
    instruction.opcode? = some opcode := by
  unfold Instruction.opcode at h
  split at h
  · cases h
    assumption
  · cases h

theorem proceeds_of_effect (h : instruction.effect core = .ok (.proceed after printed)) :
    ∃ opcode, instruction.opcode? = some opcode ∧
      opcode.Proceeds instruction.first instruction.second core after printed := by
  obtain ⟨opcode, decoded, h⟩ := Fault.exists_of_bind h
  exact ⟨opcode, opcode?_of_opcode decoded, Opcode.proceeds_of_effect h⟩

theorem effect_eq_halt_iff (core : Core) :
    instruction.effect core = .ok .halt ↔ instruction.opcode? = some .hlt := by
  constructor
  · intro h
    obtain ⟨opcode, decoded, h⟩ := Fault.exists_of_bind h
    obtain rfl := Opcode.eq_hlt_of_effect h
    exact opcode?_of_opcode decoded
  · intro h
    rw [effect, opcode, h]
    rfl

theorem ownFaults_effect (instruction : Instruction) (core : Core) :
    OwnFaults (instruction.effect core) := by
  refine .bind ?_ fun opcode => opcode.ownFaults_effect _ _ core
  unfold Instruction.opcode
  split
  · exact .ok _
  · exact .error (.unknownOpcode _ _)

theorem printed_eq_text? (h : instruction.effect core = .ok (.proceed after printed)) :
    printed = instruction.text? core.processor := by
  obtain ⟨opcode, decoded, h⟩ := proceeds_of_effect h
  unfold text?
  cases h with
  | prn named | pra named => simp only [decoded, named]
  | _ => simp only [decoded]

end Instruction
end ByteMachine
