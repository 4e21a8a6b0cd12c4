import ByteMachine.Semantics.Execution

/-! An instruction writes as it goes and takes nothing back, and still it leaves no half-done work
behind: running it comes to working out its effect beforehand and committing to it as a whole. A
fault is met either before the first write or while printing, and printing comes first too. -/

namespace ByteMachine

def Console.offer (console : Console) : Option String → Except Fault Unit × Console
  | none => (.ok (), console)
  | some text => console.write text.toUTF8

theorem Console.offer_error {console after : Console} {printed : Option String} {fault : Fault}
    (h : console.offer printed = (.error fault, after)) :
    ∃ text refusal, printed = some text ∧
      console.device.refuse console.written text.toUTF8 = some refusal ∧
      fault = .io refusal.reason ∧
      after = { console with
        written := console.written ++ text.toUTF8.extract 0 refusal.taken } := by
  cases printed with
  | none => cases h
  | some text =>
    simp only [offer, write] at h
    split at h
    · cases h
    · rename_i refusal refused
      cases h
      exact ⟨text, refusal, rfl, refused, rfl, rfl⟩

theorem Console.offer_ok {console after : Console} {printed : Option String}
    (h : console.offer printed = (.ok (), after)) :
    after = { console with written := console.written ++ (printed.getD "").toUTF8 } := by
  cases printed with
  | none =>
    have nothing : console.written ++ "".toUTF8 = console.written := ByteArray.append_empty
    cases h
    rw [Option.getD_none, nothing]
  | some text =>
    simp only [offer, write] at h
    split at h
    · cases h
      rfl
    · cases h

def Console.Reliable (console : Console) : Prop :=
  ∀ taken offered, console.device.refuse taken offered = none

theorem Console.Reliable.offer {console : Console} (reliable : console.Reliable)
    (printed : Option String) :
    console.offer printed =
      (.ok (), { console with written := console.written ++ (printed.getD "").toUTF8 }) := by
  cases printed with
  | none =>
    have nothing : console.written ++ "".toUTF8 = console.written := ByteArray.append_empty
    rw [Option.getD_none, nothing]
    rfl
  | some text => simp only [Console.offer, write, reliable console.written, Option.getD_some]

def Hardware.commit (hardware : Hardware) :
    Except Fault Effect → EStateM.Result Fault Hardware Status
  | .error fault => .error fault hardware
  | .ok .halt => .ok .halted hardware
  | .ok (.proceed core printed) =>
    match hardware.console.offer printed with
    | (.ok (), console) => .ok .running { core, console }
    | (.error fault, console) => .error fault { hardware with console }

namespace Action

variable (hardware : Hardware)

@[simp] theorem run_processor : processor.run hardware = .ok hardware.core.processor hardware :=
  rfl

theorem run_readRegister (operand : UInt8) : (readRegister operand).run hardware =
    match Register.ofByte operand with
    | .ok source => .ok (hardware.core.processor.get source) hardware
    | .error fault => .error fault hardware := by
  unfold readRegister
  cases Register.ofByte operand <;> rfl

theorem run_writeRegister (operand value : UInt8) : (writeRegister operand value).run hardware =
    match Register.ofByte operand with
    | .ok target =>
      .ok () { hardware with core.processor := hardware.core.processor.set target value }
    | .error fault => .error fault hardware := by
  unfold writeRegister
  cases Register.ofByte operand <;> rfl

@[simp] theorem run_readCell (cell : UInt8) :
    (readCell cell.toUInt64).run hardware = .ok (hardware.core.memory.get cell) hardware := by
  rw [readCell, EStateM.run_bind, EStateM.run_get]
  simp only [Memory.read_cell]
  rfl

@[simp] theorem run_writeCell (cell value : UInt8) : (writeCell cell.toUInt64 value).run hardware =
    .ok () { hardware with core.memory := hardware.core.memory.set cell value } := by
  rw [writeCell, EStateM.run_bind, EStateM.run_get]
  simp only [Memory.write_cell]
  rfl

@[simp] theorem run_lowerStack : lowerStack.run hardware =
    .ok hardware.core.processor.lowerStack.stackTop
      { hardware with core.processor := hardware.core.processor.lowerStack } :=
  rfl

theorem run_print_next (text : String) (opcode : Opcode) :
    (do print text; next opcode : Action Status).run hardware =
      hardware.commit (.ok (hardware.core.next opcode (some text))) := by
  rw [EStateM.run_bind]
  simp only [EStateM.run, print, Core.next, Hardware.commit, Console.offer]
  rcases hardware.console.write text.toUTF8 with ⟨_ | _, console⟩ <;> rfl

end Action

theorem Opcode.run_perform (opcode : Opcode) (first second : UInt8) (hardware : Hardware) :
    (opcode.perform first second).run hardware =
      hardware.commit (opcode.effect first second hardware.core) := by
  cases opcode with
  | nop => rfl
  | hlt => rfl
  | ret =>
    simp only [perform, effect, EStateM.run_bind, Action.run_processor, Action.run_readCell]
    rfl
  | st =>
    simp only [perform, effect, EStateM.run_bind, Action.run_writeCell]
    rfl
  | ldi =>
    simp only [perform, effect, EStateM.run_bind, Action.run_writeRegister]
    cases Register.ofByte first <;> rfl
  | ld =>
    simp only [perform, effect, EStateM.run_bind, Action.run_readRegister]
    cases Register.ofByte second with
    | error fault => rfl
    | ok source =>
      simp only [Action.run_readCell, Action.run_writeRegister]
      cases Register.ofByte first <;> rfl
  | prn | pra =>
    simp only [perform, effect, EStateM.run_bind, Action.run_readRegister]
    cases Register.ofByte first with
    | error fault => rfl
    | ok source => exact Action.run_print_next hardware _ _
  | push | call =>
    simp only [perform, effect, EStateM.run_bind, Action.run_readRegister, Action.run_lowerStack,
      Action.run_processor, Action.run_writeCell]
    cases Register.ofByte first <;> rfl
  -- the register is named before the pointer moves, so that a bad name leaves both alone
  | pop =>
    simp only [perform, effect, EStateM.run_bind, Action.run_processor, Action.run_readCell,
      Action.run_writeRegister]
    cases Register.ofByte first <;> rfl
  | jmp =>
    simp only [perform, effect, EStateM.run_bind, Action.run_readRegister]
    cases Register.ofByte first <;> rfl
  | branch condition =>
    simp only [perform, effect, EStateM.run_bind, Action.run_processor]
    split
    · simp only [EStateM.run_bind, Action.run_readRegister]
      cases Register.ofByte first <;> rfl
    · rfl
  | unary | binary | cmp =>
    simp only [perform, effect, EStateM.run_bind, Action.run_processor]
    cases hardware.core.processor.calculate _ first second <;> rfl

end ByteMachine
