import Mathlib.Data.Set.Basic
import ByteMachine.Proofs.Semantics.Runs

/-! What a step reads of memory: the three bytes of its instruction, and for three of the opcodes
one byte of data. The other cells have no say in what it does, and a run that never reads a cell
goes the same way whatever is in it. -/

namespace ByteMachine

namespace Memory

def AgreeOutside (cells : Set UInt8) (memory other : Memory) : Prop :=
  ∀ cell ∉ cells, other.get cell = memory.get cell

variable {cells : Set UInt8} {memory other : Memory}

theorem AgreeOutside.set (agree : memory.AgreeOutside cells other) (target value : UInt8) :
    (memory.set target value).AgreeOutside cells (other.set target value) := by
  intro cell outside
  rw [get_set, get_set, agree cell outside]

theorem read_eq_get (memory : Memory) (address : UInt64) :
    memory.read address =
      if address.toNat < 256 then .ok (memory.get address.toUInt8)
      else .error (.outOfBounds .memory address) := by
  unfold read
  split
  · rename_i inside
    simp only [get, Fin.getElem_fin, UInt8.toFin_val, UInt64.toNat_toUInt8, Nat.reducePow,
      Nat.mod_eq_of_lt inside]
  · rfl

theorem AgreeOutside.read (agree : memory.AgreeOutside cells other) {address : UInt64}
    (outside : address.toNat < 256 → address.toUInt8 ∉ cells) :
    other.read address = memory.read address := by
  rw [read_eq_get, read_eq_get]
  split
  · rename_i inside
    rw [agree _ (outside inside)]
  · rfl

end Memory

namespace Instruction

def window (address : UInt64) : List UInt8 :=
  [address.toUInt8, (address + 1).toUInt8, (address + 2).toUInt8]

variable {cells : Set UInt8} {memory other : Memory} {address : UInt64}

theorem fetch_eq_error {fault : Fault} (missing : fetch memory address = .error fault)
    (other : Memory) : fetch other address = .error fault := by
  simp only [fetch, Memory.read_eq_get] at missing ⊢
  by_cases first : address.toNat < 256
  · by_cases second : (address + 1).toNat < 256
    · by_cases third : (address + 2).toNat < 256
      · simp only [first, second, third, if_true] at missing
        cases missing
      · simp only [first, second, third, if_true, if_false] at missing ⊢
        exact missing
    · simp only [first, second, if_true, if_false] at missing ⊢
      exact missing
  · simp only [first, if_false] at missing ⊢
    exact missing

theorem fetch_agreeOutside (agree : memory.AgreeOutside cells other)
    (unread : ∀ instruction, fetch memory address = .ok instruction →
      ∀ cell ∈ window address, cell ∉ cells) :
    fetch other address = fetch memory address := by
  cases fetched : fetch memory address with
  | error fault => exact fetch_eq_error fetched other
  | ok instruction =>
    have outside := unread instruction fetched
    simp only [window, List.forall_mem_cons] at outside
    obtain ⟨first, second, third, -⟩ := outside
    rw [← fetched, fetch, agree.read fun _ => first, agree.read fun _ => second,
      agree.read fun _ => third]
    rfl

end Instruction

structure Core.AgreeOutside (cells : Set UInt8) (core other : Core) : Prop where
  processor : other.processor = core.processor
  memory : core.memory.AgreeOutside cells other.memory

inductive Effect.AgreeOutside (cells : Set UInt8) :
    Except Fault Effect → Except Fault Effect → Prop where
  | fault (fault : Fault) : AgreeOutside cells (.error fault) (.error fault)
  | halt : AgreeOutside cells (.ok .halt) (.ok .halt)
  | proceed {core other : Core} {printed : Option String} (agree : core.AgreeOutside cells other) :
      AgreeOutside cells (.ok (.proceed core printed)) (.ok (.proceed other printed))

namespace Effect.AgreeOutside

variable {cells : Set UInt8} {outcome : Except Fault Effect}

theorem bind {α : Type} {action : Except Fault α} {next other : α → Except Fault Effect}
    (h : ∀ value, action = .ok value → AgreeOutside cells (next value) (other value)) :
    AgreeOutside cells (action >>= next) (action >>= other) := by
  cases action with
  | error fault => exact .fault fault
  | ok value => exact h value rfl

theorem eq_error {fault : Fault} (h : AgreeOutside cells (.error fault) outcome) :
    outcome = .error fault := by
  cases h
  rfl

theorem eq_halt (h : AgreeOutside cells (.ok .halt) outcome) : outcome = .ok .halt := by
  cases h
  rfl

theorem exists_proceed {core : Core} {printed : Option String}
    (h : AgreeOutside cells (.ok (.proceed core printed)) outcome) :
    ∃ other, core.AgreeOutside cells other ∧ outcome = .ok (.proceed other printed) := by
  cases h with
  | proceed agree => exact ⟨_, agree, rfl⟩

end Effect.AgreeOutside

namespace Opcode

def dataCell? (opcode : Opcode) (second : UInt8) (processor : Processor) : Option UInt8 :=
  match opcode with
  | .ld =>
    match Register.ofByte second with
    | .ok source => some (processor.get source)
    | .error _ => none
  | .pop | .ret => some processor.stackTop
  | _ => none

variable {cells : Set UInt8} {core other : Core}

theorem effect_agreeOutside (opcode : Opcode) (first second : UInt8)
    (agree : core.AgreeOutside cells other)
    (unread : ∀ cell, opcode.dataCell? second core.processor = some cell → cell ∉ cells) :
    Effect.AgreeOutside cells (opcode.effect first second core)
      (opcode.effect first second other) := by
  obtain ⟨_, memory⟩ := core
  obtain ⟨processor, changed⟩ := other
  obtain ⟨shared, outside⟩ := agree
  dsimp only at shared outside
  subst shared
  cases opcode with
  | nop => exact .proceed ⟨rfl, outside⟩
  | hlt => exact .halt
  | ldi | prn | pra | jmp => exact .bind fun _ _ => .proceed ⟨rfl, outside⟩
  | st => exact .proceed ⟨rfl, outside.set _ _⟩
  | push | call => exact .bind fun _ _ => .proceed ⟨rfl, outside.set _ _⟩
  | ld =>
    refine .bind fun source named => ?_
    have same := outside _ (unread (processor.get source) (by rw [dataCell?, named]))
    dsimp only at same ⊢
    rw [same]
    exact .bind fun _ _ => .proceed ⟨rfl, outside⟩
  | pop =>
    have same := outside _ (unread processor.stackTop rfl)
    simp only [effect, Core.top] at same ⊢
    rw [same]
    exact .bind fun _ _ => .proceed ⟨rfl, outside⟩
  | ret =>
    have same := outside _ (unread processor.stackTop rfl)
    simp only [effect, Core.top] at same ⊢
    rw [same]
    exact .proceed ⟨rfl, outside⟩
  | branch condition =>
    simp only [effect]
    split
    · exact .bind fun _ _ => .proceed ⟨rfl, outside⟩
    · exact .proceed ⟨rfl, outside⟩
  | unary | binary | cmp => exact .bind fun _ _ => .proceed ⟨rfl, outside⟩

end Opcode

namespace Instruction

def dataCell? (instruction : Instruction) (processor : Processor) : Option UInt8 := do
  let opcode ← instruction.opcode?
  opcode.dataCell? instruction.second processor

theorem effect_agreeOutside {cells : Set UInt8} {core other : Core} (instruction : Instruction)
    (agree : core.AgreeOutside cells other)
    (unread : ∀ cell, instruction.dataCell? core.processor = some cell → cell ∉ cells) :
    Effect.AgreeOutside cells (instruction.effect core) (instruction.effect other) := by
  unfold effect dataCell? Instruction.opcode at *
  rw [agree.processor]
  cases decoded : instruction.opcode? with
  | none => exact .fault _
  | some opcode =>
    rw [decoded] at unread
    exact opcode.effect_agreeOutside _ _ agree unread

end Instruction

namespace Machine

/-- All cells that the next step reads, those of the instruction among them. An instruction is only
ever fetched from where three cells are, so that no address is cut. -/
def reads (machine : Machine) : List UInt8 :=
  if machine.halted then []
  else
    match machine.fetch with
    | .error _ => []
    | .ok instruction =>
      Instruction.window machine.pc ++ (instruction.dataCell? machine.core.processor).toList

structure AgreeOutside (cells : Set UInt8) (machine other : Machine) : Prop where
  core : machine.core.AgreeOutside cells other.core
  console : other.console = machine.console
  log : other.log = machine.log
  halted : other.halted = machine.halted

variable {cells : Set UInt8} {machine other : Machine}

theorem reads_of_fetch {instruction : Instruction} (running : machine.halted = false)
    (fetched : machine.fetch = .ok instruction) :
    machine.reads =
      Instruction.window machine.pc ++ (instruction.dataCell? machine.core.processor).toList := by
  simp only [reads, running, fetched, Bool.false_eq_true, if_false]

theorem AgreeOutside.fetch (agree : machine.AgreeOutside cells other)
    (running : machine.halted = false) (unread : ∀ cell ∈ machine.reads, cell ∉ cells) :
    other.fetch = machine.fetch := by
  have address : other.pc = machine.pc := congrArg Processor.pc agree.core.processor
  rw [Machine.fetch, address]
  refine Instruction.fetch_agreeOutside agree.core.memory fun instruction fetched cell inside => ?_
  refine unread cell ?_
  rw [reads_of_fetch running fetched]
  exact List.mem_append_left _ inside

theorem AgreeOutside.compared (agree : machine.AgreeOutside cells other)
    (instruction : Instruction) : other.compared instruction = machine.compared instruction := by
  rw [Machine.compared, Machine.compared, agree.log, agree.core.processor]

theorem AgreeOutside.effect (agree : machine.AgreeOutside cells other)
    (running : machine.halted = false) (unread : ∀ cell ∈ machine.reads, cell ∉ cells)
    {instruction : Instruction} (fetched : machine.fetch = .ok instruction) :
    Effect.AgreeOutside cells (instruction.effect machine.core)
      (instruction.effect other.core) := by
  refine instruction.effect_agreeOutside agree.core fun cell data => unread cell ?_
  rw [reads_of_fetch running fetched, data]
  exact List.mem_append_right _ List.mem_cons_self

theorem StepsTo.agreeOutside {result : Except Fault Status} {after : Machine}
    (steps : machine.StepsTo result after) (running : machine.halted = false)
    (agree : machine.AgreeOutside cells other) (unread : ∀ cell ∈ machine.reads, cell ∉ cells) :
    ∃ next, other.StepsTo result next ∧ after.AgreeOutside cells next := by
  have fetch := agree.fetch running unread
  cases steps with
  | unfetched fetched =>
    exact ⟨_, .unfetched (fetch.trans fetched), agree.core, agree.console, agree.log, rfl⟩
  | differing fetched compared =>
    have compared := (agree.compared _).trans compared
    exact ⟨_, .differing (fetch.trans fetched) compared, agree.core, agree.console, rfl, rfl⟩
  | faulting fetched compared effect =>
    have compared := (agree.compared _).trans compared
    have same := (effect ▸ agree.effect running unread fetched).eq_error
    exact ⟨_, .faulting (fetch.trans fetched) compared same, agree.core, agree.console, rfl, rfl⟩
  | halting fetched compared effect =>
    have compared := (agree.compared _).trans compared
    have same := (effect ▸ agree.effect running unread fetched).eq_halt
    exact ⟨_, .halting (fetch.trans fetched) compared same, agree.core, agree.console, rfl, rfl⟩
  | unprinted fetched compared effect offered =>
    have compared := (agree.compared _).trans compared
    obtain ⟨core, _, same⟩ := (effect ▸ agree.effect running unread fetched).exists_proceed
    rw [← agree.console] at offered
    exact ⟨_, .unprinted (fetch.trans fetched) compared same offered, agree.core, rfl, rfl, rfl⟩
  | proceeding fetched compared effect offered =>
    have compared := (agree.compared _).trans compared
    obtain ⟨core, agreed, same⟩ := (effect ▸ agree.effect running unread fetched).exists_proceed
    rw [← agree.console] at offered
    exact ⟨_, .proceeding (fetch.trans fetched) compared same offered, agreed, rfl, rfl,
      agree.halted⟩

theorem AgreeOutside.step (agree : machine.AgreeOutside cells other)
    (unread : ∀ cell ∈ machine.reads, cell ∉ cells) :
    other.step.1 = machine.step.1 ∧ machine.step.2.AgreeOutside cells other.step.2 := by
  cases halted : machine.halted with
  | true =>
    rw [step_halted halted, step_halted (agree.halted.trans halted)]
    exact ⟨rfl, agree⟩
  | false =>
    obtain ⟨next, steps, agreed⟩ := (stepsTo_step halted).agreeOutside halted agree unread
    rw [steps.step_eq (agree.halted.trans halted)]
    exact ⟨rfl, agreed⟩

theorem AgreeOutside.after (agree : machine.AgreeOutside cells other) {n : Nat}
    (unread : ∀ i < n, ∀ cell ∈ (machine.after i).reads, cell ∉ cells) {i : Nat} (le : i ≤ n) :
    (machine.after i).AgreeOutside cells (other.after i) := by
  induction i with
  | zero => exact agree
  | succ i ih => exact ((ih (Nat.le_of_succ_le le)).step (unread i le)).2

theorem unread_cells_without_influence (cells : Set UInt8) (machine other : Machine) (n : Nat)
    (agree : machine.AgreeOutside cells other)
    (unread : ∀ i < n, ∀ cell ∈ (machine.after i).reads, cell ∉ cells) :
    (∀ i < n, (other.after i).step.1 = (machine.after i).step.1) ∧
    ∀ i ≤ n, (machine.after i).AgreeOutside cells (other.after i) :=
  ⟨fun i lt => ((agree.after unread (Nat.le_of_lt lt)).step (unread i lt)).1,
    fun _ le => agree.after unread le⟩

theorem unread_cells_without_influence_overwriting :
    let cells : Set UInt8 := {cell | 100 ≤ cell}
    let machine := loaded {}
      [0x84, 10, 0x48, 0x82, 0, 65, 0x84, 100, 1, 0x00, 0x00, 0, 0x01]
    let other := { machine with
      core.memory := (machine.core.memory.set 100 3).set 101 5 }
    machine.AgreeOutside cells other ∧ machine.core.memory ≠ other.core.memory ∧
      (other.after 5).step.1 = .ok .halted ∧ (other.after 6).console.written = "A".toUTF8 ∧
      (other.after 6).core.memory.get 100 = 1 ∧ (other.after 6).core.memory.get 101 = 5 := by
  intro cells machine other
  have agree : machine.AgreeOutside cells other := by
    refine ⟨⟨rfl, fun cell outside => ?_⟩, rfl, rfl, rfl⟩
    have first : 100 ≠ cell := by rintro rfl; exact outside (by decide)
    have second : 101 ≠ cell := by rintro rfl; exact outside (by decide)
    rw [Memory.get_set, if_neg second, Memory.get_set, if_neg first]
  have unread : ∀ i < 6, ∀ cell ∈ (machine.after i).reads, cell ∉ cells := by decide +kernel
  obtain ⟨results, agreed⟩ := unread_cells_without_influence cells machine other 6 agree unread
  have last := (agreed 6 (Nat.le_refl 6)).console
  refine ⟨agree, fun same => ?_, ?_, ?_, by decide +kernel, by decide +kernel⟩
  · exact absurd (congrArg (Memory.get · 101) same) (by decide +kernel)
  · rw [results 5 (by decide)]
    decide +kernel
  · rw [last]
    decide +kernel

end Machine
end ByteMachine
