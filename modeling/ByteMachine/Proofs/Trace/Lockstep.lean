import ByteMachine.Proofs.Semantics.Runs
import ByteMachine.Proofs.Trace.Entries

/-! A machine compared with a recording does the same as one that is not, step for step, until the
first step whose entry in the recording is missing, unreadable or about another state. -/

namespace ByteMachine

open Text (LineSource)

def Frame.Shows (frame : Frame) (processor : Processor) (instruction : Instruction) : Prop :=
  frame.pc.toUInt64 = processor.pc ∧ frame.instruction = instruction ∧
    frame.registers = processor.registers

instance (frame : Frame) (processor : Processor) (instruction : Instruction) :
    Decidable (frame.Shows processor instruction) :=
  inferInstanceAs (Decidable (_ ∧ _ ∧ _))

namespace Trace

/-- Why an entry does not stand for an instruction about to be executed. -/
inductive Unlike (processor : Processor) (instruction : Instruction) :
    Option (List Char) → Prop where
  | missing : Unlike processor instruction none
  | unreadable {text : List Char} {error : NumeralError} (read : readFrame text = .error error) :
      Unlike processor instruction (some text)
  | other {text : List Char} {frame : Frame} (read : readFrame text = .ok frame)
      (differs : ¬ frame.Shows processor instruction) : Unlike processor instruction (some text)

variable {processor : Processor} {instruction : Instruction}

instance : DecidablePred (Unlike processor instruction)
  | none => isTrue .missing
  | some text =>
    match read : readFrame text with
    | .error _ => isTrue (.unreadable read)
    | .ok frame =>
      if shows : frame.Shows processor instruction then
        isFalse fun
          | .unreadable unread => nomatch unread.symm.trans read
          | .other same differs => differs (Except.ok.inj (read.symm.trans same) ▸ shows)
      else isTrue (.other read shows)

theorem shows_iff (small : processor.pc.toNat < 256) {frame : Frame} :
    frame.Shows processor instruction ↔ frame =
      { pc := UInt8.ofNat processor.pc.toNat, instruction, registers := processor.registers } := by
  rcases frame with ⟨pc, shown, registers⟩
  simp only [Frame.Shows, Frame.mk.injEq, ← UInt64.toNat_inj, ← UInt8.toNat_inj,
    UInt8.toNat_toUInt64, UInt8.toNat_ofNat_of_lt' small]

theorem agree_line (small : processor.pc.toNat < 256) (expected : List Char) :
    agree expected (line processor instruction).toList ↔
      ∃ frame, readFrame expected = .ok frame ∧ frame.Shows processor instruction := by
  unfold agree
  rw [readFrame_line small]
  cases readFrame expected with
  | error error => simp only [Bool.false_eq_true, reduceCtorEq, false_and, exists_false]
  | ok frame =>
    simp only [decide_eq_true_eq, Except.ok.injEq, exists_eq_left', shows_iff small]

/-- The end of a recording reads as an empty entry, and so agrees with nothing. -/
theorem unlike_iff (small : processor.pc.toNat < 256) (entry : Option (List Char)) :
    Unlike processor instruction entry ↔
      ¬ agree (entry.getD []) (line processor instruction).toList := by
  rw [agree_line small]
  cases entry with
  | none =>
    have empty : readFrame [] = .error .empty := rfl
    refine ⟨fun _ ⟨frame, read, _⟩ => ?_, fun _ => .missing⟩
    exact nomatch empty.symm.trans read
  | some text =>
    constructor
    · rintro (_ | unread | ⟨read, differs⟩) ⟨frame, same, shows⟩
      · exact nomatch unread.symm.trans same
      · obtain rfl := Except.ok.inj (read.symm.trans same)
        exact differs shows
    · intro disagrees
      cases read : readFrame text with
      | error error => exact .unreadable read
      | ok frame => exact .other read fun shows => disagrees ⟨frame, read, shows⟩

end Trace

namespace Machine

/-- The next step will execute an instruction that the entry does not stand for. A machine that has
halted fetches nothing any more. -/
def Differs (machine : Machine) (entry : Option (List Char)) : Prop :=
  machine.halted = false ∧ ∃ instruction, machine.fetch = .ok instruction ∧
    Trace.Unlike machine.core.processor instruction entry

instance (machine : Machine) (entry : Option (List Char)) : Decidable (machine.Differs entry) :=
  inferInstanceAs (Decidable (_ ∧ _))

structure Alike (machine other : Machine) : Prop where
  core : other.core = machine.core
  console : other.console = machine.console
  halted : other.halted = machine.halted

def against (machine : Machine) (log : LineSource) : Machine :=
  { machine with log := some log }

/-- One machine has been given a recording and the other not, and otherwise they are the same. While
they are running, the recording has just these entries left. -/
structure Follows (plain watched : Machine) (rest : List (List Char)) : Prop where
  unlogged : plain.log = none
  logged : ∃ log, watched = plain.against log ∧ (plain.halted = false → Trace.Remain log rest)

variable {plain watched next : Machine} {instruction : Instruction} {rest : List (List Char)}
  {result : Except Fault Status}

theorem Follows.alike (h : Follows plain watched rest) : plain.Alike watched := by
  obtain ⟨log, rfl, _⟩ := h.logged
  exact ⟨rfl, rfl, rfl⟩

theorem line_eq_traceLine (fetched : plain.fetch = .ok instruction) :
    Trace.line plain.core.processor instruction = plain.traceLine := by
  obtain ⟨code, first, h⟩ := Fault.exists_of_bind fetched
  obtain ⟨operand, second, h⟩ := Fault.exists_of_bind h
  obtain ⟨other, third, h⟩ := Fault.exists_of_bind h
  cases h
  simp only [traceLine, first, second, third]

theorem compared_against (plain : Machine) {log : LineSource} (remain : Trace.Remain log rest)
    (instruction : Instruction) :
    ∃ after, Trace.Remain after rest.tail ∧ (plain.against log).compared instruction =
      (if Trace.agree (rest.headD []) (Trace.line plain.core.processor instruction).toList
        then .ok ()
        else .error (.traceMismatch (String.ofList (rest.headD []))
          (Trace.line plain.core.processor instruction)), some after) := by
  obtain ⟨after, remain, checked⟩ := Trace.exists_check remain
    (Trace.line plain.core.processor instruction)
  refine ⟨after, remain, ?_⟩
  simp only [compared, against, Trace.checkAgainst?, checked]

theorem agree_of_not_differs (running : plain.halted = false)
    (fetched : plain.fetch = .ok instruction) (same : ¬ plain.Differs rest.head?) :
    Trace.agree (rest.headD []) (Trace.line plain.core.processor instruction).toList := by
  have small := pc_lt_size fetched
  rw [List.headD_eq_head?_getD]
  refine Decidable.byContradiction fun disagrees => ?_
  exact same ⟨running, instruction, fetched, (Trace.unlike_iff small _).2 disagrees⟩

theorem StepsTo.against {log : LineSource} (steps : plain.StepsTo result next)
    (running : plain.halted = false) (unlogged : plain.log = none)
    (remain : Trace.Remain log rest) (same : ¬ plain.Differs rest.head?) :
    ∃ after, (plain.against log).StepsTo result (next.against after) ∧ next.log = none ∧
      (next.halted = false → Trace.Remain after rest.tail) := by
  -- comparing succeeds for both, for the one because it has nothing to compare with
  have logged {instruction : Instruction} {unchecked : Option LineSource}
      (fetched : plain.fetch = .ok instruction)
      (compared : plain.compared instruction = (.ok (), unchecked)) :
      unchecked = none ∧ ∃ after, Trace.Remain after rest.tail ∧
        (plain.against log).compared instruction = (.ok (), some after) := by
    obtain ⟨after, remain, checked⟩ := compared_against plain remain instruction
    rw [if_pos (agree_of_not_differs running fetched same)] at checked
    rw [compared_of_unlogged unlogged] at compared
    exact ⟨(Prod.mk.inj compared).2.symm, after, remain, checked⟩
  cases steps with
  | unfetched fetched => exact ⟨log, .unfetched fetched, unlogged, nofun⟩
  | differing fetched compared =>
    rw [compared_of_unlogged unlogged] at compared
    cases compared
  | faulting fetched compared effect =>
    obtain ⟨rfl, after, remain, checked⟩ := logged fetched compared
    exact ⟨after, .faulting fetched checked effect, rfl, nofun⟩
  | halting fetched compared effect =>
    obtain ⟨rfl, after, remain, checked⟩ := logged fetched compared
    exact ⟨after, .halting fetched checked effect, rfl, nofun⟩
  | unprinted fetched compared effect offered =>
    obtain ⟨rfl, after, remain, checked⟩ := logged fetched compared
    exact ⟨after, .unprinted fetched checked effect offered, rfl, nofun⟩
  | proceeding fetched compared effect offered =>
    obtain ⟨rfl, after, remain, checked⟩ := logged fetched compared
    exact ⟨after, .proceeding fetched checked effect offered, rfl, fun _ => remain⟩

theorem Follows.step (h : Follows plain watched rest) (same : ¬ plain.Differs rest.head?) :
    watched.step.1 = plain.step.1 ∧ Follows plain.step.2 watched.step.2 rest.tail := by
  obtain ⟨log, rfl, remain⟩ := h.logged
  cases halted : plain.halted with
  | true =>
    -- a halted machine reads nothing more, so that the entries left do not matter
    have halted' : (plain.against log).halted := halted
    rw [step_halted halted, step_halted halted']
    exact ⟨rfl, h.unlogged, log, rfl, fun running => nomatch halted.symm.trans running⟩
  | false =>
    obtain ⟨after, steps, unlogged, remain⟩ :=
      (stepsTo_step halted).against halted h.unlogged (remain halted) same
    have running : (plain.against log).halted = false := halted
    rw [steps.step_eq running]
    exact ⟨rfl, unlogged, after, rfl, remain⟩

theorem Follows.after (h : Follows plain watched rest) {n : Nat}
    (same : ∀ i < n, ¬ (plain.after i).Differs rest[i]?) {i : Nat} (le : i ≤ n) :
    Follows (plain.after i) (watched.after i) (rest.drop i) := by
  induction i with
  | zero => exact h
  | succ i ih =>
    have follows := ih (Nat.le_of_succ_le le)
    rw [← List.tail_drop]
    exact (follows.step (by rw [List.head?_drop]; exact same i le)).2

theorem Follows.step_after (h : Follows plain watched rest) {n : Nat}
    (same : ∀ i < n, ¬ (plain.after i).Differs rest[i]?) {i : Nat} (lt : i < n) :
    (watched.after i).step.1 = (plain.after i).step.1 := by
  have follows := h.after same (Nat.le_of_lt lt)
  exact (follows.step (by rw [List.head?_drop]; exact same i lt)).1

theorem Follows.step_differs (h : Follows plain watched rest) (differs : plain.Differs rest.head?) :
    watched.step.1 = .error (.traceMismatch (String.ofList (rest.headD [])) plain.traceLine) ∧
      watched.step.2.halted ∧ watched.step.2.core = plain.core ∧
      watched.step.2.console = plain.console := by
  obtain ⟨log, rfl, remain⟩ := h.logged
  obtain ⟨running, instruction, fetched, unlike⟩ := differs
  obtain ⟨after, _, checked⟩ := compared_against plain (remain running) instruction
  have small := pc_lt_size fetched
  rw [Trace.unlike_iff small, ← List.headD_eq_head?_getD] at unlike
  rw [if_neg unlike, line_eq_traceLine fetched] at checked
  have running' : (plain.against log).halted = false := running
  have steps : (plain.against log).StepsTo _ _ := .differing fetched checked
  rw [steps.step_eq running']
  exact ⟨rfl, rfl, rfl, rfl⟩

theorem follows_loaded (console : Console) (program : List UInt8) (path log : String) :
    Follows (loaded console program)
      ((loaded console program).compareAgainst path (.contents log.toUTF8)).2 (Trace.frames log) :=
  ⟨rfl, .ofText log, rfl, fun _ => Trace.remain_ofText log⟩

theorem lockstep_until_difference (console : Console) (program : List UInt8) (path log : String)
    (n : Nat)
    (same : ∀ i < n, ¬ ((loaded console program).after i).Differs (Trace.frames log)[i]?) :
    let plain := loaded console program
    let watched := (plain.compareAgainst path (.contents log.toUTF8)).2
    (∀ i < n, (watched.after i).step.1 = (plain.after i).step.1) ∧
    (∀ i ≤ n, (plain.after i).Alike (watched.after i)) ∧
    ((plain.after n).Differs (Trace.frames log)[n]? →
      (watched.after n).step.1 = .error (.traceMismatch
        (String.ofList ((Trace.frames log).getD n [])) (plain.after n).traceLine) ∧
      (watched.after (n + 1)).halted ∧ (watched.after (n + 1)).core = (plain.after n).core ∧
      (watched.after (n + 1)).console = (plain.after n).console) := by
  intro plain watched
  have start : Follows plain watched (Trace.frames log) := follows_loaded console program path log
  refine ⟨fun i lt => start.step_after same lt, fun i le => (start.after same le).alike,
    fun differs => ?_⟩
  rw [← List.head?_drop] at differs
  have mismatch := (start.after same (Nat.le_refl n)).step_differs differs
  rwa [List.headD_eq_head?_getD, List.head?_drop, ← List.getD_eq_getElem?_getD] at mismatch

theorem lockstep_until_difference_register :
    let program := [0x82, 0, 7, 0x47, 0, 1]
    let log := "TRACE: 00 | 82 00 07 | 00 00 00 00 00 00 00 F4\n" ++
      "trace of R0\n" ++ "at TRACE: 3 | 47 0 1 | 8 0 0 0 0 0 0 F4  \n"
    let plain := loaded {} program
    let watched := (plain.compareAgainst "log" (.contents log.toUTF8)).2
    (plain.after 1).Differs (Trace.frames log)[1]? ∧ plain.step.1 = .ok .running ∧
      watched.step.1 = .ok .running ∧ (watched.after 1).step.1 = .error (.traceMismatch
        "TRACE: 3 | 47 0 1 | 8 0 0 0 0 0 0 F4"
        "TRACE: 03 | 47 00 01 | 07 00 00 00 00 00 00 F4") := by
  intro program log plain watched
  have same : ∀ i < 1, ¬ (plain.after i).Differs (Trace.frames log)[i]? := by decide +kernel
  have differs : (plain.after 1).Differs (Trace.frames log)[1]? := by decide +kernel
  obtain ⟨results, _, mismatch⟩ := lockstep_until_difference {} program "log" log 1 same
  have running : plain.step.1 = .ok .running := by decide +kernel
  refine ⟨differs, running, (results 0 (by decide)).trans running, (mismatch differs).1.trans ?_⟩
  decide +kernel

end Machine
end ByteMachine
