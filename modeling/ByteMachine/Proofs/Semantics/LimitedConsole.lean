import Mathlib.Data.Nat.Find
import ByteMachine.Proofs.Semantics.Printing

/-! A console that fills up. It keeps the first bytes of all that it is offered, so that what it
holds is the beginning of what the program would have printed, and the instruction that would have
printed too much is the last one: it faults and leaves everything else as it was. -/

namespace ByteMachine

/-- Takes so many bytes in all, and those of a text that still fit. -/
def Device.KeepsFirst (device : Device) (capacity : Nat) : Prop :=
  ∀ taken offered : ByteArray,
    (taken.size + offered.size ≤ capacity → device.refuse taken offered = none) ∧
    (capacity < taken.size + offered.size → ∃ reason,
      device.refuse taken offered = some { taken := capacity - taken.size, reason })

theorem Device.keepsFirst_limited (capacity : Nat) : (limited capacity).KeepsFirst capacity :=
  fun _ _ => ⟨fun fits => if_pos fits, fun exceeds => ⟨_, if_neg (Nat.not_le_of_gt exceeds)⟩⟩

namespace Console

variable {console : Console} {capacity : Nat} {printed : Option String}

theorem offer_of_fits (keeps : console.device.KeepsFirst capacity)
    (fits : console.written.size + (printed.getD "").toUTF8.size ≤ capacity) :
    console.offer printed =
      (.ok (), { console with written := console.written ++ (printed.getD "").toUTF8 }) := by
  cases printed with
  | none =>
    have nothing : console.written ++ "".toUTF8 = console.written := ByteArray.append_empty
    rw [Option.getD_none, nothing]
    rfl
  | some text =>
    rw [Option.getD_some] at fits
    simp only [offer, write, (keeps _ _).1 fits, Option.getD_some]

theorem extract_append_of_le {taken offered : ByteArray} (room : taken.size ≤ capacity) :
    (taken ++ offered).extract 0 capacity = taken ++ offered.extract 0 (capacity - taken.size) := by
  have whole : taken.extract 0 (max capacity taken.size) = taken := ByteArray.extract_zero_max_size
  rw [Nat.max_eq_left room] at whole
  rw [ByteArray.extract_append, Nat.zero_sub, whole]

theorem extract_append_of_ge {taken offered : ByteArray} (full : capacity ≤ taken.size) :
    (taken ++ offered).extract 0 capacity = taken.extract 0 capacity := by
  have nothing : offered.extract 0 0 = .empty := ByteArray.extract_same
  rw [ByteArray.extract_append, Nat.sub_eq_zero_of_le full, Nat.zero_sub, nothing,
    ByteArray.append_empty]

theorem offer_of_exceeds (keeps : console.device.KeepsFirst capacity)
    (room : console.written.size ≤ capacity)
    (exceeds : capacity < console.written.size + (printed.getD "").toUTF8.size) :
    ∃ reason, console.offer printed = (.error (.io reason), { console with
      written := (console.written ++ (printed.getD "").toUTF8).extract 0 capacity }) := by
  cases printed with
  | none => exact absurd room (Nat.not_le_of_gt exceeds)
  | some text =>
    rw [Option.getD_some] at exceeds
    obtain ⟨reason, refused⟩ := (keeps _ _).2 exceeds
    refine ⟨reason, ?_⟩
    simp only [offer, write, refused, Option.getD_some, extract_append_of_le room]

theorem write_append_of_limited (written front back : ByteArray) (capacity : Nat) :
    let console : Console := { device := .limited capacity, written }
    console.write (front ++ back) =
      match console.write front with
      | (.ok (), console) => console.write back
      | refused => refused := by
  intro console
  by_cases fits : written.size + front.size ≤ capacity
  · have first : console.write front = (.ok (), { console with written := written ++ front }) := by
      simp only [write, Device.limited, console, fits, if_true]
    rw [first]
    by_cases whole : written.size + (front.size + back.size) ≤ capacity
    · simp only [write, Device.limited, console, ByteArray.size_append, Nat.add_assoc, whole,
        if_true, ByteArray.append_assoc]
    · simp only [write, Device.limited, console, ByteArray.size_append, Nat.add_assoc, whole,
        if_false, extract_append_of_le (Nat.le_sub_of_add_le' fits), ByteArray.append_assoc,
        Nat.sub_sub]
  · have exceeds : ¬ written.size + (front.size + back.size) ≤ capacity := by omega
    have full : capacity - written.size ≤ front.size := by omega
    simp only [write, Device.limited, console, ByteArray.size_append, fits, exceeds, if_false,
      extract_append_of_ge full]

end Console

namespace Machine

structure SameButDevice (machine other : Machine) : Prop where
  core : other.core = machine.core
  written : other.console.written = machine.console.written
  log : other.log = machine.log
  halted : other.halted = machine.halted

variable {machine other : Machine} {capacity : Nat}

theorem SameButDevice.fetch (same : machine.SameButDevice other) : other.fetch = machine.fetch := by
  rw [Machine.fetch, Machine.fetch, pc, pc, same.core]

theorem SameButDevice.compared (same : machine.SameButDevice other) (instruction : Instruction) :
    other.compared instruction = machine.compared instruction := by
  rw [Machine.compared, Machine.compared, same.core, same.log]

theorem StepsTo.of_fits {result : Except Fault Status} {after : Machine}
    (steps : machine.StepsTo result after) (reliable : machine.console.Reliable)
    (same : machine.SameButDevice other)
    (keeps : other.console.device.KeepsFirst capacity)
    (fits : after.console.written.size ≤ capacity) :
    ∃ next, other.StepsTo result next ∧ after.SameButDevice next ∧
      next.console.device = other.console.device := by
  cases steps with
  | unfetched fetched =>
    exact ⟨_, .unfetched (same.fetch.trans fetched),
      ⟨same.core, same.written, same.log, rfl⟩, rfl⟩
  | differing fetched compared =>
    exact ⟨_, .differing (same.fetch.trans fetched) ((same.compared _).trans compared),
      ⟨same.core, same.written, rfl, rfl⟩, rfl⟩
  | faulting fetched compared effect =>
    rw [← same.core] at effect
    exact ⟨_, .faulting (same.fetch.trans fetched) ((same.compared _).trans compared) effect,
      ⟨same.core, same.written, rfl, rfl⟩, rfl⟩
  | halting fetched compared effect =>
    rw [← same.core] at effect
    exact ⟨_, .halting (same.fetch.trans fetched) ((same.compared _).trans compared) effect,
      ⟨same.core, same.written, rfl, rfl⟩, rfl⟩
  | unprinted fetched compared effect offered =>
    rw [reliable.offer] at offered
    cases offered
  | proceeding fetched compared effect offered =>
    rw [← same.core] at effect
    rw [reliable.offer] at offered
    cases offered
    rw [ByteArray.size_append, ← same.written] at fits
    have taken := Console.offer_of_fits keeps fits
    rw [same.written] at taken
    exact ⟨_,
      .proceeding (same.fetch.trans fetched) ((same.compared _).trans compared) effect taken,
      ⟨rfl, rfl, rfl, same.halted⟩, rfl⟩

/-- Only an instruction that prints can exceed the room there is, and it comes to nothing then. -/
theorem StepsTo.of_exceeds {result : Except Fault Status} {after : Machine}
    (steps : machine.StepsTo result after) (reliable : machine.console.Reliable)
    (same : machine.SameButDevice other)
    (keeps : other.console.device.KeepsFirst capacity)
    (room : machine.console.written.size ≤ capacity)
    (exceeds : capacity < after.console.written.size) :
    ∃ reason next, other.StepsTo (.error (.io reason)) next ∧ next.core = machine.core ∧
      next.console.written = after.console.written.extract 0 capacity := by
  cases steps with
  | unfetched | differing | faulting | halting => exact absurd room (Nat.not_le_of_gt exceeds)
  | unprinted fetched compared effect offered =>
    rw [reliable.offer] at offered
    cases offered
  | proceeding fetched compared effect offered =>
    rw [← same.core] at effect
    rw [reliable.offer] at offered
    cases offered
    rw [ByteArray.size_append, ← same.written] at exceeds
    rw [← same.written] at room
    obtain ⟨reason, refused⟩ := Console.offer_of_exceeds keeps room exceeds
    refine ⟨reason, _, .unprinted (same.fetch.trans fetched) ((same.compared _).trans compared)
      effect refused, same.core, ?_⟩
    simp only [same.written]

theorem SameButDevice.step_fits (same : machine.SameButDevice other)
    (reliable : machine.console.Reliable) (keeps : other.console.device.KeepsFirst capacity)
    (fits : machine.step.2.console.written.size ≤ capacity) :
    other.step.1 = machine.step.1 ∧ machine.step.2.SameButDevice other.step.2 ∧
      other.step.2.console.device.KeepsFirst capacity := by
  cases halted : machine.halted with
  | true =>
    rw [step_halted halted, step_halted (same.halted.trans halted)]
    exact ⟨rfl, same, keeps⟩
  | false =>
    obtain ⟨next, steps, agree, device⟩ := (stepsTo_step halted).of_fits reliable same keeps fits
    rw [steps.step_eq (same.halted.trans halted)]
    exact ⟨rfl, agree, device ▸ keeps⟩

theorem SameButDevice.step_exceeds (same : machine.SameButDevice other)
    (reliable : machine.console.Reliable) (keeps : other.console.device.KeepsFirst capacity)
    (room : machine.console.written.size ≤ capacity)
    (exceeds : capacity < machine.step.2.console.written.size) :
    (∃ reason, other.step.1 = .error (.io reason)) ∧ other.step.2.halted ∧
      other.step.2.core = machine.core ∧
      other.step.2.console.written = machine.step.2.console.written.extract 0 capacity := by
  cases halted : machine.halted with
  | true =>
    rw [step_halted halted] at exceeds
    exact absurd room (Nat.not_le_of_gt exceeds)
  | false =>
    obtain ⟨reason, next, steps, core, written⟩ :=
      (stepsTo_step halted).of_exceeds reliable same keeps room exceeds
    rw [steps.step_eq (same.halted.trans halted)]
    exact ⟨⟨reason, rfl⟩, steps.halted nofun, core, written⟩

theorem size_written_le (reliable : machine.console.Reliable) {m n : Nat} (le : m ≤ n) :
    (machine.after m).console.written.size ≤ (machine.after n).console.written.size := by
  obtain ⟨more, written⟩ := exists_written_after reliable le
  rw [written, ByteArray.size_append]
  exact Nat.le_add_right _ _

theorem SameButDevice.after (same : machine.SameButDevice other)
    (reliable : machine.console.Reliable) (keeps : other.console.device.KeepsFirst capacity)
    {n : Nat} (fits : (machine.after n).console.written.size ≤ capacity) {i : Nat} (le : i ≤ n) :
    (machine.after i).SameButDevice (other.after i) ∧
      (other.after i).console.device.KeepsFirst capacity := by
  induction i with
  | zero => exact ⟨same, keeps⟩
  | succ i ih =>
    obtain ⟨same, keeps⟩ := ih (Nat.le_of_succ_le le)
    have room := Nat.le_trans (size_written_le reliable le) fits
    exact (same.step_fits (reliable_after reliable i) keeps room).2

theorem SameButDevice.step_after (same : machine.SameButDevice other)
    (reliable : machine.console.Reliable) (keeps : other.console.device.KeepsFirst capacity)
    {n : Nat} (fits : (machine.after n).console.written.size ≤ capacity) {i : Nat} (lt : i < n) :
    (other.after i).step.1 = (machine.after i).step.1 := by
  obtain ⟨same, keeps⟩ := same.after reliable keeps fits (Nat.le_of_lt lt)
  have room := Nat.le_trans (size_written_le reliable lt) fits
  exact (same.step_fits (reliable_after reliable i) keeps room).1

theorem exists_exceeding {n : Nat} (room : machine.console.written.size ≤ capacity)
    (exceeds : capacity < (machine.after n).console.written.size) :
    ∃ j < n, (machine.after j).console.written.size ≤ capacity ∧
      capacity < (machine.after (j + 1)).console.written.size := by
  have some : ∃ i, capacity < (machine.after i).console.written.size := ⟨n, exceeds⟩
  have le : Nat.find some ≤ n := Nat.find_min' some exceeds
  have first := Nat.find_spec some
  have before : ∀ i < Nat.find some, (machine.after i).console.written.size ≤ capacity :=
    fun i lt => Nat.le_of_not_lt (Nat.find_min some lt)
  cases least : Nat.find some with
  | zero =>
    rw [least] at first
    exact absurd room (Nat.not_le_of_gt first)
  | succ j =>
    rw [least] at first le before
    exact ⟨j, le, before j (Nat.lt_succ_self j), first⟩

theorem limited_console_cuts_run (unlimited limited : Device) (capacity : Nat)
    (reliable : ∀ taken offered, unlimited.refuse taken offered = none)
    (keeps : limited.KeepsFirst capacity) (program : List UInt8) (n : Nat) :
    let full := loaded { device := unlimited } program
    let cut := loaded { device := limited } program
    let output := (full.after n).console.written
    (output.size ≤ capacity →
      (∀ i < n, (cut.after i).step.1 = (full.after i).step.1) ∧
      ∀ i ≤ n, (full.after i).SameButDevice (cut.after i)) ∧
    (capacity < output.size → ∃ j < n,
      (full.after j).console.written.size ≤ capacity ∧
      capacity < (full.after (j + 1)).console.written.size ∧
      (∀ i < j, (cut.after i).step.1 = (full.after i).step.1) ∧
      (∀ i ≤ j, (full.after i).SameButDevice (cut.after i)) ∧
      (∃ reason, (cut.after j).step.1 = .error (.io reason)) ∧
      ∀ i, j < i → (cut.after i).halted ∧ (cut.after i).core = (full.after j).core ∧
        (cut.after i).console.written = output.extract 0 capacity) := by
  intro full cut output
  have same : full.SameButDevice cut := ⟨rfl, rfl, rfl, rfl⟩
  have reliable : full.console.Reliable := reliable
  have keeps : cut.console.device.KeepsFirst capacity := keeps
  refine ⟨fun fits => ⟨fun i lt => same.step_after reliable keeps fits lt,
    fun i le => (same.after reliable keeps fits le).1⟩, fun exceeds => ?_⟩
  obtain ⟨j, lt, fits, next⟩ := exists_exceeding (Nat.zero_le _) exceeds
  obtain ⟨same', keeps'⟩ := same.after reliable keeps fits (Nat.le_refl j)
  obtain ⟨refused, halted, core, written⟩ :=
    same'.step_exceeds (reliable_after reliable j) keeps' fits next
  refine ⟨j, lt, fits, next, fun i lt => same.step_after reliable keeps fits lt,
    fun i le => (same.after reliable keeps fits le).1, refused, fun i later => ?_⟩
  -- nothing happens any more, and what is printed later lies past the capacity
  rw [after_eq_of_halted (Nat.succ_le_of_lt later) halted]
  obtain ⟨more, whole⟩ := exists_written_after reliable (Nat.succ_le_of_lt lt)
  refine ⟨halted, core, written.trans ?_⟩
  have cutOff : output.extract 0 capacity = _ :=
    (congrArg (·.extract 0 capacity) whole).trans (Console.extract_append_of_ge (Nat.le_of_lt next))
  exact cutOff.symm

theorem limited_console_cuts_run_number :
    let program := [0x82, 0, 0xE9, 0x48, 0, 0x47, 0, 0x01]
    let full := loaded {} program
    let cut := loaded { device := .limited 4 } program
    (full.after 4).console.written = "é233\n".toUTF8 ∧ cut.step.1 = .ok .running ∧
      (∃ reason, (cut.after 2).step.1 = .error (.io reason)) ∧
      (cut.after 3).core = (full.after 2).core ∧
      (cut.after 4).console.written = "é23".toUTF8 := by
  intro program full cut
  have printed : (full.after 4).console.written = "é233\n".toUTF8 := by decide +kernel
  obtain ⟨_, cuts⟩ := limited_console_cuts_run .ready (.limited 4) 4 (fun _ _ => rfl)
    (Device.keepsFirst_limited 4) program 4
  obtain ⟨j, lt, fits, next, results, _, refused, later⟩ := cuts (by decide +kernel)
  have third : ∀ j < 4, 4 < (full.after (j + 1)).console.written.size →
      (full.after j).console.written.size ≤ 4 → j = 2 := by decide +kernel
  obtain rfl := third j lt next fits
  have first : cut.step.1 = full.step.1 := results 0 (by decide)
  have core : (cut.after 3).core = (full.after 2).core := (later 3 (by decide)).2.1
  have written := (later 4 (by decide)).2.2
  refine ⟨printed, ?_, refused, core, ?_⟩
  · rw [first]
    decide +kernel
  · rw [written, printed]
    decide +kernel

end Machine
end ByteMachine
