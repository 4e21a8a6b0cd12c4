import ByteMachine.Proofs.Semantics.Runs

/-! The stack in memory against an ideal one. The ideal stack is a list that nothing but pushing
and popping can reach, and its values are not cut to a byte; the cells from the stack pointer on
hold the same values as long as a program leaves them and the pointer alone. -/

namespace ByteMachine

theorem cell_ne_below (top : UInt8) {i : Nat} (h : i < 255) : top + UInt8.ofNat i ≠ top - 1 := by
  intro eq
  have same := congrArg UInt8.toNat eq
  simp only [UInt8.toNat_add, UInt8.toNat_sub, UInt8.toNat_ofNat', UInt8.toNat_one] at same
  omega

namespace Processor

@[simp] theorem stackTop_lowerStack (processor : Processor) :
    processor.lowerStack.stackTop = processor.stackTop - 1 := by
  rw [lowerStack, stackTop, get_set, if_pos rfl]

@[simp] theorem stackTop_raiseStack (processor : Processor) :
    processor.raiseStack.stackTop = processor.stackTop + 1 := by
  rw [raiseStack, stackTop, get_set, if_pos rfl]

theorem stackTop_set {processor : Processor} {target : Register} (value : UInt8)
    (h : target ≠ .stackPointer) : (processor.set target value).stackTop = processor.stackTop := by
  rw [stackTop, get_set, if_neg h, stackTop]

theorem stackTop_set_get (processor : Processor) (target : Register) :
    (processor.set target (processor.get target)).stackTop = processor.stackTop := by
  rw [stackTop, get_set, stackTop]
  split
  · rename_i same
    rw [same]
  · rfl

theorem get_lowerStack (processor : Processor) (source : Register) :
    processor.lowerStack.get source =
      if source = .stackPointer then processor.stackTop - 1 else processor.get source := by
  rw [lowerStack, get_set]
  simp only [eq_comm]

end Processor

namespace Core

/-- The value on top comes first. -/
structure Holds (core : Core) (start : UInt8) (shadow : List Nat) : Prop where
  pointer : core.processor.stackTop = start - UInt8.ofNat shadow.length
  cells : ∀ i (h : i < shadow.length),
    (core.memory.get (core.processor.stackTop + UInt8.ofNat i)).toNat = shadow[i]

variable {core after : Core} {start : UInt8} {shadow : List Nat}

theorem Holds.nil (core : Core) : core.Holds core.processor.stackTop [] where
  pointer := by rw [List.length_nil, show UInt8.ofNat 0 = 0 from rfl, UInt8.sub_zero]
  cells i h := absurd h (Nat.not_lt_zero i)

theorem Holds.frame (h : core.Holds start shadow)
    (pointer : after.processor.stackTop = core.processor.stackTop)
    (cells : ∀ i < shadow.length, after.memory.get (core.processor.stackTop + UInt8.ofNat i) =
      core.memory.get (core.processor.stackTop + UInt8.ofNat i)) :
    after.Holds start shadow where
  pointer := pointer.trans h.pointer
  cells i hi := by rw [pointer, cells i hi, h.cells i hi]

theorem Holds.push (h : core.Holds start shadow) (fits : shadow.length < 256) (value : UInt8) :
    (core.push value).Holds start (value.toNat :: shadow) where
  pointer := by
    rw [Core.push, Processor.stackTop_lowerStack, h.pointer, List.length_cons, UInt8.ofNat_add]
    grind
  cells i hi := by
    rw [Core.push, Memory.get_set, Processor.stackTop_lowerStack]
    cases i with
    | zero =>
      rw [show UInt8.ofNat 0 = 0 from rfl, UInt8.add_zero, if_pos rfl, List.getElem_cons_zero]
    | succ i =>
      have hi' : i < shadow.length := Nat.lt_of_succ_lt_succ hi
      have above : core.processor.stackTop - 1 + UInt8.ofNat (i + 1) =
          core.processor.stackTop + UInt8.ofNat i := by
        rw [UInt8.ofNat_add]
        grind
      -- the cell written lies below those in use, and there are too few of them to reach round
      rw [above, if_neg (cell_ne_below _ (by omega)).symm, h.cells i hi', List.getElem_cons_succ]

theorem Holds.top {value : Nat} (h : core.Holds start (value :: shadow)) :
    core.top.toNat = value := by
  have first := h.cells 0 (Nat.succ_pos _)
  rwa [show UInt8.ofNat 0 = 0 from rfl, UInt8.add_zero] at first

theorem Holds.drop {value : Nat} (h : core.Holds start (value :: shadow)) :
    core.drop.Holds start shadow where
  pointer := by
    rw [Core.drop, Processor.stackTop_raiseStack, h.pointer, List.length_cons, UInt8.ofNat_add]
    grind
  cells i hi := by
    have next := h.cells (i + 1) (Nat.succ_lt_succ hi)
    rw [List.getElem_cons_succ] at next
    rw [Core.drop, Processor.stackTop_raiseStack, ← next, UInt8.ofNat_add]
    congr 2
    grind

end Core

theorem Register.eq_of_ofByte_stackPointer {byte : UInt8}
    (h : Register.ofByte byte = .ok .stackPointer) : byte = 7 := by
  unfold ofByte at h
  split at h
  · have value := congrArg Fin.val (Except.ok.inj h)
    exact UInt8.toNat_inj.1 value
  · cases h

namespace Instruction

def pushed? (instruction : Instruction) (processor : Processor) : Option Nat :=
  match instruction.opcode?, Register.ofByte instruction.first with
  | some .push, .ok source =>
    some (if source = .stackPointer then processor.stackTop - 1 else processor.get source).toNat
  | some .call, .ok _ => some (processor.pc.toNat + 2)
  | _, _ => none

def pops (instruction : Instruction) : Prop :=
  instruction.opcode? = some .pop ∨ instruction.opcode? = some .ret

instance (instruction : Instruction) : Decidable instruction.pops :=
  inferInstanceAs (Decidable (_ ∨ _))

def destination? (instruction : Instruction) : Option UInt8 :=
  match instruction.opcode? with
  | some .ldi | some .ld | some .pop | some (.unary .inc) | some (.unary .dec)
  | some (.binary _) => some instruction.first
  | _ => none

def onShadow (instruction : Instruction) (processor : Processor) (shadow : List Nat) : List Nat :=
  match instruction.pushed? processor with
  | some value => value :: shadow
  | none => if instruction.pops then shadow.tail else shadow

/-- Only pushing and popping touch the stack, and it neither underflows nor overflows. -/
structure Respects (instruction : Instruction) (core : Core) (shadow : List Nat) : Prop where
  pointer : instruction.destination? ≠ some 7
  cells : instruction.opcode? = some .st → ∀ i < shadow.length,
    instruction.first ≠ core.processor.stackTop + UInt8.ofNat i
  low : instruction.pops → shadow ≠ []
  high : (instruction.onShadow core.processor shadow).length ≤ 256

instance (instruction : Instruction) (core : Core) (shadow : List Nat) :
    Decidable (instruction.Respects core shadow) :=
  decidable_of_iff (instruction.destination? ≠ some 7 ∧
      (instruction.opcode? = some .st → ∀ i < shadow.length,
        instruction.first ≠ core.processor.stackTop + UInt8.ofNat i) ∧
      (instruction.pops → shadow ≠ []) ∧
      (instruction.onShadow core.processor shadow).length ≤ 256)
    ⟨fun ⟨pointer, cells, low, high⟩ => ⟨pointer, cells, low, high⟩,
      fun h => ⟨h.pointer, h.cells, h.low, h.high⟩⟩

variable {instruction : Instruction} {core after : Core} {start : UInt8} {shadow : List Nat}
  {printed : Option String}

theorem Respects.ne_stackPointer (h : instruction.Respects core shadow)
    (goes : instruction.destination? = some instruction.first) {target : Register}
    (named : Register.ofByte instruction.first = .ok target) : target ≠ .stackPointer := by
  rintro rfl
  exact h.pointer (by rw [goes, Register.eq_of_ofByte_stackPointer named])

/-- The invariant of every run. -/
theorem holds_of_effect (h : core.Holds start shadow) (respects : instruction.Respects core shadow)
    (bound : core.processor.pc.toNat < 254)
    (effect : instruction.effect core = .ok (.proceed after printed)) :
    after.Holds start (instruction.onShadow core.processor shadow) := by
  obtain ⟨opcode, decoded, proceeds⟩ := proceeds_of_effect effect
  have high := respects.high
  cases proceeds with
  | push named =>
    simp only [onShadow, pushed?, decoded, named, List.length_cons] at high ⊢
    rw [← Processor.get_lowerStack]
    exact (h.push (by omega) _).frame rfl fun _ _ => rfl
  | call named =>
    simp only [onShadow, pushed?, decoded, named, List.length_cons] at high ⊢
    -- the return address still fits in a byte
    have whole : (core.processor.pc + Opcode.width .call).toUInt8.toNat =
        core.processor.pc.toNat + 2 := by
      rw [UInt64.toNat_toUInt8, UInt64.toNat_add, show (Opcode.width .call).toNat = 2 from rfl]
      omega
    rw [← whole]
    exact (h.push (by omega) _).frame rfl fun _ _ => rfl
  | pop named =>
    have spared := respects.ne_stackPointer (by simp only [destination?, decoded]) named
    obtain ⟨value, rest, rfl⟩ := List.exists_cons_of_ne_nil (respects.low (.inl decoded))
    simp only [onShadow, pushed?, decoded, pops, true_or, if_true, List.tail_cons]
    have kept : (core.set _ core.top).Holds start (value :: rest) :=
      h.frame (Processor.stackTop_set _ spared) fun _ _ => rfl
    exact kept.drop.frame rfl fun _ _ => rfl
  | ret =>
    obtain ⟨value, rest, rfl⟩ := List.exists_cons_of_ne_nil (respects.low (.inr decoded))
    simp only [onShadow, pushed?, decoded, pops, or_true, if_true, List.tail_cons]
    exact h.drop.frame rfl fun _ _ => rfl
  | st =>
    simp only [onShadow, pushed?, decoded, pops]
    refine h.frame rfl fun i hi => ?_
    exact (Memory.get_set ..).trans (if_neg (respects.cells decoded i hi))
  | ldi named | ld _ named | binary named =>
    have spared := respects.ne_stackPointer (by simp only [destination?, decoded]) named
    simp only [onShadow, pushed?, decoded, pops, reduceCtorEq, Option.some.injEq, or_self, if_false]
    exact h.frame (Processor.stackTop_set _ spared) fun _ _ => rfl
  | @unary operation _ named =>
    simp only [onShadow, pushed?, decoded, pops, reduceCtorEq, Option.some.injEq, or_self, if_false]
    refine h.frame ?_ fun _ _ => rfl
    cases operation with
    | not => exact Processor.stackTop_set_get ..
    | inc | dec =>
      exact Processor.stackTop_set _
        (respects.ne_stackPointer (by simp only [destination?, decoded]) named)
  | nop | prn | pra | jmp | taken | skipped | cmp =>
    simp only [onShadow, pushed?, decoded, pops, reduceCtorEq, Option.some.injEq, or_self, if_false]
    exact h.frame rfl fun _ _ => rfl

theorem head?_of_pop (h : core.Holds start shadow) (respects : instruction.Respects core shadow)
    (effect : instruction.effect core = .ok (.proceed after printed))
    (pop : instruction.opcode? = some .pop) :
    ∃ target, Register.ofByte instruction.first = .ok target ∧
      shadow.head? = some (after.processor.get target).toNat := by
  obtain ⟨value, rest, rfl⟩ := List.exists_cons_of_ne_nil (respects.low (.inl pop))
  obtain ⟨opcode, decoded, proceeds⟩ := proceeds_of_effect effect
  obtain rfl : Opcode.pop = opcode := Option.some.inj (pop.symm.trans decoded)
  cases proceeds with
  | @pop target named =>
    have spared := respects.ne_stackPointer (by simp only [destination?, pop]) named
    have popped :
        ((core.set target core.top).drop.advance .pop).processor.get target = core.top := by
      change ((core.processor.set target core.top).raiseStack).get target = core.top
      rw [Processor.raiseStack, Processor.get_set, if_neg spared.symm, Processor.get_set,
        if_pos rfl]
    exact ⟨target, named, by rw [popped, h.top, List.head?_cons]⟩

theorem head?_of_ret (h : core.Holds start shadow) (respects : instruction.Respects core shadow)
    (effect : instruction.effect core = .ok (.proceed after printed))
    (ret : instruction.opcode? = some .ret) : shadow.head? = some after.processor.pc.toNat := by
  obtain ⟨value, rest, rfl⟩ := List.exists_cons_of_ne_nil (respects.low (.inr ret))
  obtain ⟨opcode, decoded, proceeds⟩ := proceeds_of_effect effect
  obtain rfl : Opcode.ret = opcode := Option.some.inj (ret.symm.trans decoded)
  cases proceeds with
  | ret =>
    change some value = some core.top.toUInt64.toNat
    rw [UInt8.toNat_toUInt64, h.top]

end Instruction

namespace Machine

def pushed? (machine : Machine) : Option Nat :=
  match machine.fetch with
  | .ok instruction => instruction.pushed? machine.core.processor
  | .error _ => none

def shadow (machine : Machine) : Nat → List Nat
  | 0 => []
  | n + 1 =>
    match (machine.after n).fetch with
    | .ok instruction => instruction.onShadow (machine.after n).core.processor (machine.shadow n)
    | .error _ => machine.shadow n

def depth (machine : Machine) (n : Nat) : Nat :=
  (machine.shadow n).length

/-- Step `j` takes off what step `i` has put on: in between the stack was never lower. -/
structure Matches (machine : Machine) (i j : Nat) : Prop where
  before : i < j
  rises : machine.depth (i + 1) = machine.depth i + 1
  level : machine.depth j = machine.depth (i + 1)
  above : ∀ k, i < k → k ≤ j → machine.depth (i + 1) ≤ machine.depth k

def Recovers (machine : Machine) (j value : Nat) : Prop :=
  (∃ i, machine.Matches i j) ∧
    ∀ i, machine.Matches i j → (machine.after i).pushed? = some value

structure RunsRespecting (machine : Machine) (n : Nat) : Prop where
  running : ∀ i < n, (machine.after i).step.1 = .ok .running
  respects : ∀ i < n, ∀ instruction, (machine.after i).fetch = .ok instruction →
    instruction.Respects (machine.after i).core (machine.shadow i)

instance (machine : Machine) (n : Nat) : Decidable (machine.RunsRespecting n) :=
  decidable_of_iff ((∀ i < n, (machine.after i).step.1 = .ok .running) ∧
      ∀ i < n, ∀ instruction, (machine.after i).fetch = .ok instruction →
        instruction.Respects (machine.after i).core (machine.shadow i))
    ⟨fun h => ⟨h.1, h.2⟩, fun h => ⟨h.running, h.respects⟩⟩

variable {machine : Machine}

theorem shadow_succ {n : Nat} {instruction : Instruction}
    (fetched : (machine.after n).fetch = .ok instruction) :
    machine.shadow (n + 1) =
      instruction.onShadow (machine.after n).core.processor (machine.shadow n) := by
  rw [shadow, fetched]

theorem shadow_succ_cases (machine : Machine) (n : Nat) :
    (∃ value, (machine.after n).pushed? = some value ∧
      machine.shadow (n + 1) = value :: machine.shadow n) ∨
    machine.shadow (n + 1) = (machine.shadow n).tail ∨
    machine.shadow (n + 1) = machine.shadow n := by
  cases fetched : (machine.after n).fetch with
  | error fault => exact .inr (.inr (by rw [shadow, fetched]))
  | ok instruction =>
    rw [shadow_succ fetched, pushed?, fetched]
    unfold Instruction.onShadow
    dsimp only
    cases instruction.pushed? (machine.after n).core.processor with
    | some value => exact .inl ⟨value, rfl, rfl⟩
    | none =>
      dsimp only
      split
      · exact .inr (.inl rfl)
      · exact .inr (.inr rfl)

theorem depth_succ_le (machine : Machine) (n : Nat) :
    machine.depth (n + 1) ≤ machine.depth n + 1 := by
  unfold depth
  rcases machine.shadow_succ_cases n with ⟨value, -, pushed⟩ | popped | same
  · rw [pushed]
    exact Nat.le_refl _
  · rw [popped, List.length_tail]
    exact Nat.le_succ_of_le (Nat.sub_le _ _)
  · rw [same]
    exact Nat.le_succ _

theorem pushed?_of_rises {n : Nat} (rises : machine.depth (n + 1) = machine.depth n + 1) :
    ∃ value, (machine.after n).pushed? = some value ∧
      machine.shadow (n + 1) = value :: machine.shadow n := by
  unfold depth at rises
  rcases machine.shadow_succ_cases n with pushed | popped | same
  · exact pushed
  · rw [popped, List.length_tail] at rises
    omega
  · rw [same] at rises
    omega

theorem shadow_suffix {i j : Nat} (before : i < j)
    (above : ∀ k, i < k → k ≤ j → machine.depth (i + 1) ≤ machine.depth k) :
    machine.shadow (i + 1) <:+ machine.shadow j := by
  induction before with
  | refl => exact List.suffix_rfl
  | @step j before ih =>
    have kept := ih fun k after le => above k after (Nat.le_succ_of_le le)
    have deep := above (j + 1) (Nat.lt_succ_of_lt before) (Nat.le_refl _)
    -- only a pop could take anything away, and then the stack would be too low
    rcases machine.shadow_succ_cases j with ⟨value, -, pushed⟩ | popped | same
    · rw [pushed]
      exact List.suffix_cons_iff.2 (.inr kept)
    · unfold depth at deep
      rw [popped] at deep ⊢
      cases top : machine.shadow j with
      | nil => rwa [top] at kept
      | cons value rest =>
        rw [top] at kept deep
        rcases List.suffix_cons_iff.1 kept with whole | kept
        · rw [whole, List.tail_cons, List.length_cons] at deep
          omega
        · exact kept
    · rwa [same]

theorem Matches.shadow_eq {i j : Nat} (h : machine.Matches i j) :
    machine.shadow j = machine.shadow (i + 1) :=
  ((shadow_suffix h.before h.above).eq_of_length h.level.symm).symm

theorem exists_push {j level : Nat} (positive : 0 < level) (le : level ≤ machine.depth j) :
    ∃ i < j, machine.depth (i + 1) = level ∧ machine.depth i + 1 = level ∧
      ∀ k, i < k → k ≤ j → level ≤ machine.depth k := by
  induction j with
  | zero => exact absurd le (Nat.not_le_of_gt positive)
  | succ j ih =>
    by_cases old : level ≤ machine.depth j
    · obtain ⟨i, before, reached, risen, above⟩ := ih old
      refine ⟨i, Nat.lt_succ_of_lt before, reached, risen, fun k after upto => ?_⟩
      rcases Nat.lt_or_eq_of_le upto with earlier | rfl
      · exact above k after (Nat.le_of_lt_succ earlier)
      · exact le
    · -- a step adds one value at most, so that this one reached the level just now
      have rises := machine.depth_succ_le j
      refine ⟨j, Nat.lt_succ_self j, by omega, by omega, fun k after upto => ?_⟩
      obtain rfl : k = j + 1 := Nat.le_antisymm upto after
      exact le

theorem recovers_of_head? {j value : Nat} (h : (machine.shadow j).head? = some value) :
    machine.Recovers j value := by
  have positive : 0 < machine.depth j := by
    unfold depth
    cases top : machine.shadow j with
    | nil => rw [top] at h; cases h
    | cons => exact Nat.succ_pos _
  constructor
  · obtain ⟨i, before, reached, risen, above⟩ := exists_push positive (Nat.le_refl _)
    exact ⟨i, before, by omega, reached.symm, fun k after upto => reached ▸ above k after upto⟩
  · intro i matching
    obtain ⟨pushed, known, shadow⟩ := pushed?_of_rises matching.rises
    rw [matching.shadow_eq, shadow, List.head?_cons] at h
    rw [known, Option.some.inj h]

theorem pushed?_of_call {instruction : Instruction} {value : Nat}
    (fetched : machine.fetch = .ok instruction) (call : instruction.opcode? = some .call)
    (pushed : machine.pushed? = some value) : value = machine.pc.toNat + 2 := by
  simp only [Machine.pushed?, fetched, Instruction.pushed?, call] at pushed
  cases named : Register.ofByte instruction.first with
  | error fault => rw [named] at pushed; cases pushed
  | ok source => rw [named] at pushed; exact (Option.some.inj pushed).symm

theorem RunsRespecting.holds {n : Nat} (run : machine.RunsRespecting n) {i : Nat} (le : i ≤ n) :
    (machine.after i).core.Holds machine.core.processor.stackTop (machine.shadow i) := by
  induction i with
  | zero => exact .nil _
  | succ i ih =>
    obtain ⟨instruction, printed, fetched, effect⟩ := exists_of_running (run.running i le)
    rw [shadow_succ fetched]
    exact Instruction.holds_of_effect (ih (Nat.le_of_succ_le le)) (run.respects i le _ fetched)
      (pc_lt_of_fetch fetched) effect

theorem stack_refines_shadow (machine : Machine) (n : Nat) (run : machine.RunsRespecting n) :
    (∀ i ≤ n, (machine.after i).core.Holds machine.core.processor.stackTop (machine.shadow i)) ∧
    ∀ j < n, ∀ instruction, (machine.after j).fetch = .ok instruction →
      (instruction.opcode? = some .pop → ∃ target,
        Register.ofByte instruction.first = .ok target ∧
        machine.Recovers j ((machine.after (j + 1)).core.processor.get target).toNat) ∧
      (instruction.opcode? = some .ret → machine.Recovers j (machine.after (j + 1)).pc.toNat ∧
        ∀ i, machine.Matches i j → ∀ call, (machine.after i).fetch = .ok call →
          call.opcode? = some .call →
          (machine.after (j + 1)).pc.toNat = (machine.after i).pc.toNat + 2) := by
  refine ⟨fun i le => run.holds le, fun j lt instruction fetched => ?_⟩
  obtain ⟨executed, printed, same, effect⟩ := exists_of_running (run.running j lt)
  obtain rfl : instruction = executed := Except.ok.inj (fetched.symm.trans same)
  have holds := run.holds (Nat.le_of_lt lt)
  have respects := run.respects j lt instruction fetched
  constructor
  · intro pop
    obtain ⟨target, named, head⟩ := Instruction.head?_of_pop holds respects effect pop
    exact ⟨target, named, recovers_of_head? head⟩
  · intro ret
    have recovers : machine.Recovers j (machine.after (j + 1)).pc.toNat :=
      recovers_of_head? (Instruction.head?_of_ret holds respects effect ret)
    exact ⟨recovers, fun i matching call fetched called =>
      pushed?_of_call fetched called (recovers.2 i matching)⟩

/-- The stack starts at the bottom of memory: the return address lies in the last cell, and the
subroutine pushes and pops below it. -/
theorem stack_refines_shadow_wrapping :
    let machine := (loaded {}
      [0x82, 7, 0, 0x82, 1, 10, 0x50, 1, 1, 0, 0x45, 7, 0x46, 2, 0x11]).after 1
    machine.core.processor.stackTop = 0 ∧ machine.RunsRespecting 5 ∧
      machine.shadow 3 = [254, 8] ∧
      (machine.after 3).core.Holds 0 (machine.shadow 3) ∧
      machine.Recovers 4 (machine.after 5).pc.toNat := by
  intro machine
  have run : machine.RunsRespecting 5 := by decide +kernel
  obtain ⟨holds, recovers⟩ := stack_refines_shadow machine 5 run
  exact ⟨by decide +kernel, run, by decide +kernel, holds 3 (by decide),
    ((recovers 4 (by decide) ⟨0x11, 0, 0⟩ (by decide +kernel)).2 (by decide +kernel)).1⟩

end Machine
end ByteMachine
