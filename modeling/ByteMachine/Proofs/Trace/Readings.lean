import ByteMachine.Proofs.Semantics.Printing
import ByteMachine.Proofs.Trace.Lockstep

/-! A machine compared with any recording at all, lines that are no text and files that cannot be
read included. Each comparison takes the next reading, and a run gets as far as all of its readings
show what it executes. -/

namespace ByteMachine

open Text (LineSource)

namespace Text.LineSource

def said : Option String → Option (Except String (List Char))
  | none => some (.error invalidText)
  | some line => (Trace.entryOf line.toList).map .ok

def ending (source : LineSource) : Except String (List Char) :=
  match source.failure with
  | none => .ok []
  | some reason => .error reason

def reading (source : LineSource) (i : Nat) : Except String (List Char) :=
  (source.lines.filterMap said)[i]?.getD source.ending

end Text.LineSource

namespace Trace

variable {source : LineSource}

theorem nextFrame_reading (source : LineSource) :
    ∃ rest, nextFrame source.failure source.lines = ((source.reading 0).mapError .io, rest) ∧
      rest.filterMap LineSource.said = (source.lines.filterMap LineSource.said).tail := by
  obtain ⟨lines, failure⟩ := source
  induction lines with
  | nil => cases failure <;> exact ⟨[], rfl, rfl⟩
  | cons line lines ih =>
    cases line with
    | none => exact ⟨lines, rfl, rfl⟩
    | some line =>
      cases found : fromTag? line.toList with
      | none =>
        have silent : LineSource.said (some line) = none := by
          rw [LineSource.said, entryOf, found]
          rfl
        simpa only [nextFrame, found, LineSource.reading, LineSource.ending,
          List.filterMap_cons_none silent] using ih
      | some text =>
        have entry : LineSource.said (some line) = some (.ok (Text.trimEnd text)) := by
          rw [LineSource.said, entryOf, found]
          rfl
        refine ⟨lines, ?_, ?_⟩
        · simp only [nextFrame, found, LineSource.reading, List.filterMap_cons_some entry]
          rfl
        · simp only [List.filterMap_cons_some entry, List.tail_cons]

theorem exists_check_eq (source : LineSource) (actual : String) :
    ∃ after, (∀ i, after.reading i = source.reading (i + 1)) ∧ check source actual =
      (match source.reading 0 with
        | .error reason => .error (.io reason)
        | .ok expected =>
          if agree expected actual.toList then .ok ()
          else .error (.traceMismatch (String.ofList expected) actual), after) := by
  obtain ⟨rest, next, used⟩ := nextFrame_reading source
  refine ⟨{ source with lines := rest }, fun i => ?_, ?_⟩
  · simp only [LineSource.reading, LineSource.ending, used, List.getElem?_tail]
  · rw [check, next]
    cases source.reading 0 <;> rfl

end Trace
theorem Fault.exitCode_io_ne (reason : String) : (Fault.io reason).exitCode ≠ 101 := by
  rw [exitCode]
  decide

namespace Machine

variable {machine : Machine} {instruction : Instruction} {fault : Fault} {i k : Nat}

def reading? (machine : Machine) (i : Nat) : Option (Except String (List Char)) :=
  machine.log.map (·.reading i)

theorem exists_compared_eq (machine : Machine) (instruction : Instruction) :
    ∃ log : Option LineSource, (∀ i, log.map (·.reading i) = machine.reading? (i + 1)) ∧
      machine.compared instruction =
        (match machine.reading? 0 with
          | none => .ok ()
          | some (.error reason) => .error (.io reason)
          | some (.ok expected) =>
            if Trace.agree expected (Trace.line machine.core.processor instruction).toList
            then .ok ()
            else .error (.traceMismatch (String.ofList expected)
              (Trace.line machine.core.processor instruction)), log) := by
  unfold compared reading?
  cases machine.log with
  | none => exact ⟨none, fun _ => rfl, rfl⟩
  | some source =>
    obtain ⟨after, used, checked⟩ :=
      Trace.exists_check_eq source (Trace.line machine.core.processor instruction)
    refine ⟨some after, fun i => congrArg some (used i), ?_⟩
    rw [Trace.checkAgainst?, checked, Option.map_some]
    cases source.reading 0 <;> rfl

theorem reading?_step (runs : machine.step.1 = .ok .running) (i : Nat) :
    machine.step.2.reading? i = machine.reading? (i + 1) := by
  have steps := stepsTo_step (running_of_step runs)
  rw [runs] at steps
  generalize machine.step.2 = after at steps
  cases steps with
  | @proceeding instruction _ _ _ _ _ compared =>
    obtain ⟨log, used, compared'⟩ := machine.exists_compared_eq instruction
    rw [compared] at compared'
    obtain rfl := (Prod.mk.inj compared').2
    exact used i

def Passes (machine : Machine) (k : Nat) : Prop :=
  ∀ i < k, (machine.after i).step.1 = .ok .running

theorem reading?_after (passes : machine.Passes k) (i : Nat) :
    (machine.after k).reading? i = machine.reading? (k + i) := by
  induction k generalizing i with
  | zero => rw [Nat.zero_add]; rfl
  | succ k ih =>
    rw [after, reading?_step (passes k (Nat.lt_succ_self k)),
      ih (fun j lt => passes j (Nat.lt_succ_of_lt lt)), Nat.succ_add, Nat.add_succ]

theorem halted_step (runs : machine.step.1 = .ok .running) :
    machine.step.2.halted = false := by
  have running := running_of_step runs
  have steps := stepsTo_step running
  rw [runs] at steps
  generalize machine.step.2 = after at steps ⊢
  cases steps with
  | proceeding => exact running

theorem Passes.running (passes : machine.Passes k) (running : machine.halted = false) :
    (machine.after k).halted = false := by
  cases k with
  | zero => exact running
  | succ k => exact halted_step (passes k (Nat.lt_succ_self k))

variable {reading : Option (Except String (List Char))} {reason : String}

/-- Either there is no recording or it shows the instruction as it is about to be executed. -/
def Recorded (machine : Machine) (reading : Option (Except String (List Char)))
    (instruction : Instruction) : Prop :=
  ∀ said, reading = some said → ∃ text frame, said = .ok text ∧
    Trace.readFrame text = .ok frame ∧ frame.Shows machine.core.processor instruction

def Finishes (machine : Machine) (reading : Option (Except String (List Char))) : Prop :=
  ∃ instruction, machine.fetch = .ok instruction ∧ instruction.opcode? = some .hlt ∧
    machine.Recorded reading instruction

def Unread (machine : Machine) (reading : Option (Except String (List Char)))
    (reason : String) : Prop :=
  (∃ instruction, machine.fetch = .ok instruction) ∧ reading = some (.error reason)

inductive Fails (machine : Machine) (reading : Option (Except String (List Char))) : Fault → Prop
  | unfetched {fault : Fault} (fetched : machine.fetch = .error fault) :
      Fails machine reading fault
  | mismatched {instruction : Instruction} {expected : List Char}
      (fetched : machine.fetch = .ok instruction) (read : reading = some (.ok expected))
      (differs : ¬ machine.Recorded reading instruction) :
      Fails machine reading (.traceMismatch (String.ofList expected) machine.traceLine)
  | refused {instruction : Instruction} {fault : Fault}
      (fetched : machine.fetch = .ok instruction) (recorded : machine.Recorded reading instruction)
      (effect : instruction.effect machine.core = .error fault) : Fails machine reading fault

theorem recorded_none (machine : Machine) (instruction : Instruction) :
    machine.Recorded none instruction :=
  nofun

theorem not_recorded_error (machine : Machine) (reason : String) (instruction : Instruction) :
    ¬ machine.Recorded (some (.error reason)) instruction := by
  intro recorded
  obtain ⟨text, frame, read, -⟩ := recorded _ rfl
  cases read

theorem recorded_ok_iff {expected : List Char} (fetched : machine.fetch = .ok instruction) :
    machine.Recorded (some (.ok expected)) instruction ↔
      Trace.agree expected (Trace.line machine.core.processor instruction).toList := by
  rw [Trace.agree_line (pc_lt_size fetched)]
  constructor
  · intro recorded
    obtain ⟨text, frame, same, read, shows⟩ := recorded _ rfl
    cases same
    exact ⟨frame, read, shows⟩
  · rintro ⟨frame, read, shows⟩ said same
    cases same
    exact ⟨expected, frame, rfl, read, shows⟩

theorem compared_iff (fetched : machine.fetch = .ok instruction) :
    (machine.compared instruction).1 = .ok () ↔
      machine.Recorded (machine.reading? 0) instruction := by
  obtain ⟨log, -, compared⟩ := machine.exists_compared_eq instruction
  rw [compared]
  cases machine.reading? 0 with
  | none => exact iff_of_true rfl (machine.recorded_none instruction)
  | some reading =>
    cases reading with
    | error reason => exact iff_of_false nofun (machine.not_recorded_error reason instruction)
    | ok expected =>
      simp only [recorded_ok_iff fetched, ite_eq_left_iff, reduceCtorEq, imp_false,
        Decidable.not_not]

theorem compared_of_mismatch {expected : List Char} (fetched : machine.fetch = .ok instruction)
    (read : machine.reading? 0 = some (.ok expected))
    (differs : ¬ machine.Recorded (machine.reading? 0) instruction) :
    (machine.compared instruction).1 =
      .error (.traceMismatch (String.ofList expected) machine.traceLine) := by
  obtain ⟨log, -, compared⟩ := machine.exists_compared_eq instruction
  rw [read, recorded_ok_iff fetched] at differs
  rw [compared, read, ← line_eq_traceLine fetched]
  exact if_neg differs

theorem step_of_finishes (running : machine.halted = false)
    (finishes : machine.Finishes (machine.reading? 0)) : machine.step.1 = .ok .halted := by
  obtain ⟨instruction, fetched, halts, recorded⟩ := finishes
  have agreed := (compared_iff fetched).2 recorded
  have effect := (Instruction.effect_eq_halt_iff machine.core).2 halts
  have steps : machine.StepsTo _ _ := .halting fetched (Prod.ext agreed rfl) effect
  rw [steps.step_eq running]

theorem step_of_unread (running : machine.halted = false)
    (unread : machine.Unread (machine.reading? 0) reason) :
    machine.step.1 = .error (.io reason) := by
  obtain ⟨⟨instruction, fetched⟩, read⟩ := unread
  obtain ⟨log, -, compared⟩ := machine.exists_compared_eq instruction
  rw [read] at compared
  rw [(StepsTo.differing fetched compared).step_eq running]

theorem step_of_fails (running : machine.halted = false)
    (fails : machine.Fails (machine.reading? 0) fault) : machine.step.1 = .error fault := by
  cases fails with
  | unfetched fetched => rw [(StepsTo.unfetched fetched).step_eq running]
  | @mismatched instruction expected fetched read differs =>
    have mismatch := compared_of_mismatch fetched read differs
    have steps : machine.StepsTo _ _ := .differing fetched (Prod.ext mismatch rfl)
    rw [steps.step_eq running]
  | refused fetched recorded effect =>
    have agreed := (compared_iff fetched).2 recorded
    have steps : machine.StepsTo _ _ := .faulting fetched (Prod.ext agreed rfl) effect
    rw [steps.step_eq running]

theorem finishes_of_step (running : machine.halted = false)
    (halts : machine.step.1 = .ok .halted) : machine.Finishes (machine.reading? 0) := by
  have steps := stepsTo_step running
  rw [halts] at steps
  generalize machine.step.2 = after at steps
  cases steps with
  | halting fetched compared effect =>
    exact ⟨_, fetched, (Instruction.effect_eq_halt_iff _).1 effect,
      (compared_iff fetched).1 (congrArg Prod.fst compared)⟩

theorem recorded_of_step (runs : machine.step.1 = .ok .running) :
    ∃ instruction, machine.fetch = .ok instruction ∧
      machine.Recorded (machine.reading? 0) instruction := by
  have steps := stepsTo_step (running_of_step runs)
  rw [runs] at steps
  generalize machine.step.2 = after at steps
  cases steps with
  | proceeding fetched compared =>
    exact ⟨_, fetched, (compared_iff fetched).1 (congrArg Prod.fst compared)⟩

/-- The console being reliable, nothing else can go wrong. -/
theorem unread_or_fails (running : machine.halted = false) (reliable : machine.console.Reliable)
    (faulted : machine.step.1 = .error fault) :
    (∃ reason, fault = .io reason ∧ machine.Unread (machine.reading? 0) reason) ∨
      machine.Fails (machine.reading? 0) fault := by
  have steps := stepsTo_step running
  rw [faulted] at steps
  generalize machine.step.2 = after at steps
  cases steps with
  | unfetched fetched => exact .inr (.unfetched fetched)
  | @differing instruction _ _ fetched compared =>
    have differs : ¬ machine.Recorded (machine.reading? 0) instruction := by
      rw [← compared_iff fetched, compared]
      exact nofun
    cases read : machine.reading? 0 with
    | none => exact absurd (machine.recorded_none instruction) (read ▸ differs)
    | some said =>
      cases said with
      | error reason =>
        have unread : machine.Unread (machine.reading? 0) reason := ⟨⟨instruction, fetched⟩, read⟩
        have failed := faulted.symm.trans (step_of_unread running unread)
        exact .inl ⟨reason, Except.error.inj failed, read ▸ unread⟩
      | ok expected =>
        have mismatch := compared_of_mismatch fetched read differs
        rw [compared] at mismatch
        obtain rfl := Except.error.inj mismatch
        exact .inr (.mismatched fetched rfl (read ▸ differs))
  | faulting fetched compared effect =>
    exact .inr (.refused fetched ((compared_iff fetched).1 (congrArg Prod.fst compared)) effect)
  | unprinted fetched compared effect offered =>
    rw [reliable.offer] at offered
    cases offered

theorem Fails.exitCode_eq (fails : machine.Fails reading fault) : fault.exitCode = 101 := by
  have own {fault : Fault} (h : fault.OfInstruction) : fault.exitCode = 101 := by
    cases h <;> rfl
  cases fails with
  | unfetched fetched => exact own (OwnFaults.fetch _ _ _ fetched)
  | mismatched => rfl
  | refused _ _ effect => exact own (Instruction.ownFaults_effect _ _ _ effect)

section

variable (running : machine.halted = false)

include running

theorem step_eq_halted_iff :
    machine.step.1 = .ok .halted ↔ machine.Finishes (machine.reading? 0) :=
  ⟨finishes_of_step running, step_of_finishes running⟩

variable (reliable : machine.console.Reliable)

include reliable

theorem step_eq_io_iff :
    machine.step.1 = .error (.io reason) ↔ machine.Unread (machine.reading? 0) reason := by
  refine ⟨fun faulted => ?_, step_of_unread running⟩
  rcases unread_or_fails running reliable faulted with ⟨_, same, unread⟩ | fails
  · exact Fault.io.inj same ▸ unread
  · exact absurd fails.exitCode_eq (Fault.exitCode_io_ne _)

theorem step_eq_error_iff (runtime : fault.exitCode = 101) :
    machine.step.1 = .error fault ↔ machine.Fails (machine.reading? 0) fault := by
  refine ⟨fun faulted => ?_, step_of_fails running⟩
  rcases unread_or_fails running reliable faulted with ⟨_, rfl, _⟩ | fails
  · exact absurd runtime (Fault.exitCode_io_ne _)
  · exact fails

end

/-- Everything that is executed is recorded, the instruction that ends the program included. -/
def Completes (machine : Machine) : Prop :=
  ∃ k, machine.Passes k ∧ (machine.after k).Finishes (machine.reading? k) ∧
    ∀ i < k, ∃ instruction, (machine.after i).fetch = .ok instruction ∧
      (machine.after i).Recorded (machine.reading? i) instruction

def LosesRecording (machine : Machine) : Prop :=
  ∃ k reason, machine.Passes k ∧ (machine.after k).Unread (machine.reading? k) reason

def Breaks (machine : Machine) : Prop :=
  ∃ k fault, machine.Passes k ∧ (machine.after k).Fails (machine.reading? k) fault

theorem StopsAt.unique {j : Nat} (first : machine.StopsAt j) (second : machine.StopsAt k) :
    j = k := by
  rcases Nat.lt_trichotomy j k with early | same | late
  · exact absurd (second.running j early) first.stops
  · exact same
  · exact absurd (first.running k late) second.stops

theorem recorded_after (passes : machine.Passes k) (lt : i < k) :
    ∃ instruction, (machine.after i).fetch = .ok instruction ∧
      (machine.after i).Recorded (machine.reading? i) instruction := by
  have before : machine.Passes i := fun j early => passes j (Nat.lt_trans early lt)
  have recorded := recorded_of_step (passes i lt)
  rwa [reading?_after before] at recorded

section

variable (running : machine.halted = false)

include running

theorem after_finishes_iff (passes : machine.Passes k) :
    (machine.after k).step.1 = .ok .halted ↔ (machine.after k).Finishes (machine.reading? k) := by
  rw [step_eq_halted_iff (passes.running running), reading?_after passes]
  rfl

theorem completes_iff (stops : machine.StopsAt k) :
    machine.Completes ↔ (machine.after k).step.1 = .ok .halted := by
  constructor
  · rintro ⟨j, passes, finishes, -⟩
    have halts := (after_finishes_iff running passes).2 finishes
    have same : machine.StopsAt j := ⟨passes, by rw [halts]; exact nofun⟩
    rwa [← same.unique stops]
  · intro halts
    exact ⟨k, stops.running, (after_finishes_iff running stops.running).1 halts,
      fun i lt => recorded_after stops.running lt⟩

variable (reliable : machine.console.Reliable)

include reliable

theorem after_unread_iff (passes : machine.Passes k) :
    (machine.after k).step.1 = .error (.io reason) ↔
      (machine.after k).Unread (machine.reading? k) reason := by
  rw [step_eq_io_iff (passes.running running) (reliable_after reliable k), reading?_after passes]
  rfl

theorem after_fails_iff (passes : machine.Passes k) (runtime : fault.exitCode = 101) :
    (machine.after k).step.1 = .error fault ↔
      (machine.after k).Fails (machine.reading? k) fault := by
  rw [step_eq_error_iff (passes.running running) (reliable_after reliable k) runtime,
    reading?_after passes]
  rfl

theorem losesRecording_iff (stops : machine.StopsAt k) :
    machine.LosesRecording ↔ ∃ reason, (machine.after k).step.1 = .error (.io reason) := by
  constructor
  · rintro ⟨j, reason, passes, unread⟩
    have faulted := (after_unread_iff running reliable passes).2 unread
    have same : machine.StopsAt j := ⟨passes, by rw [faulted]; exact nofun⟩
    exact ⟨reason, same.unique stops ▸ faulted⟩
  · rintro ⟨reason, faulted⟩
    exact ⟨k, reason, stops.running, (after_unread_iff running reliable stops.running).1 faulted⟩

theorem breaks_iff (stops : machine.StopsAt k) :
    machine.Breaks ↔ ∃ fault, fault.exitCode = 101 ∧ (machine.after k).step.1 = .error fault := by
  constructor
  · rintro ⟨j, fault, passes, fails⟩
    have faulted := (after_fails_iff running reliable passes fails.exitCode_eq).2 fails
    have same : machine.StopsAt j := ⟨passes, by rw [faulted]; exact nofun⟩
    exact ⟨fault, fails.exitCode_eq, same.unique stops ▸ faulted⟩
  · rintro ⟨fault, runtime, faulted⟩
    exact ⟨k, fault, stops.running,
      (after_fails_iff running reliable stops.running runtime).1 faulted⟩

theorem exitCode_of_faulted (stops : machine.StopsAt k)
    (faulted : (machine.after k).step.1 = .error fault) :
    fault.exitCode = 101 ∨ ∃ reason, fault = .io reason := by
  have live := Passes.running stops.running running
  rcases unread_or_fails live (reliable_after reliable k) faulted with ⟨reason, rfl, _⟩ | fails
  · exact .inr ⟨reason, rfl⟩
  · exact .inl fails.exitCode_eq

end

end Machine
end ByteMachine
