import Mathlib.Data.Nat.Find
import ByteMachine.Proofs.Trace.Lockstep

/-! What a whole run makes of a recording. A run that differs anywhere ends in a mismatch, and so
does one that goes on for longer than its recording. A recording that goes on for longer than the
run is not found out, because nothing is read any more once the machine has halted. -/

namespace ByteMachine

theorem Trace.unlike_iff_ne {processor : Processor} (small : processor.pc.toNat < 256)
    (instruction : Instruction) (entry : Option (List Char)) :
    Unlike processor instruction entry ↔ entry.map readFrame ≠ some (.ok
      { pc := UInt8.ofNat processor.pc.toNat, instruction, registers := processor.registers }) := by
  cases entry with
  | none => exact iff_of_true .missing (Option.some_ne_none _).symm
  | some text =>
    rw [Option.map_some, ne_eq, Option.some_inj]
    cases read : readFrame text with
    | error error =>
      refine iff_of_true (.unreadable read) fun same => ?_
      cases same
    | ok frame =>
      rw [Except.ok.injEq, ← shows_iff small]
      constructor
      · rintro (_ | unread | ⟨same, differs⟩)
        · cases unread.symm.trans read
        · exact Except.ok.inj (read.symm.trans same) ▸ differs
      · exact .other read

namespace Machine

def frame? (machine : Machine) : Option Frame :=
  if machine.halted then none
  else
    match machine.fetch with
    | .error _ => none
    | .ok instruction => some
      { pc := UInt8.ofNat machine.pc.toNat, instruction,
        registers := machine.core.processor.registers }

/-- The frames of all that is executed in so many steps. -/
def executed : Nat → Machine → List Frame
  | 0, _ => []
  | n + 1, machine =>
    match machine.frame? with
    | none => []
    | some frame => frame :: machine.step.2.executed n

variable {machine : Machine}

theorem differs_iff {entry : Option (List Char)} :
    machine.Differs entry ↔
      ∃ frame, machine.frame? = some frame ∧ entry.map Trace.readFrame ≠ some (.ok frame) := by
  unfold Differs frame?
  cases machine.halted with
  | true => simp only [Bool.true_eq_false, if_true, reduceCtorEq, false_and, exists_false]
  | false =>
    cases fetched : machine.fetch with
    | error fault =>
      simp only [Bool.false_eq_true, if_false, reduceCtorEq, false_and, exists_false, and_false]
    | ok instruction =>
      have small := pc_lt_size fetched
      simp only [Bool.false_eq_true, if_false, true_and, Except.ok.injEq, Option.some.injEq,
        exists_eq_left']
      exact Trace.unlike_iff_ne small instruction entry

theorem silent_of_frame?_eq_none (unframed : machine.frame? = none) :
    machine.step.2.halted ∧ machine.step.2.console = machine.console := by
  cases halted : machine.halted with
  | true =>
    rw [step_halted halted]
    exact ⟨halted, rfl⟩
  | false =>
    cases fetched : machine.fetch with
    | error fault =>
      rw [(StepsTo.unfetched fetched).step_eq halted]
      exact ⟨rfl, rfl⟩
    | ok instruction =>
      rw [frame?, halted, fetched] at unframed
      cases unframed

theorem frame?_after_eq_none (unframed : machine.frame? = none) (n : Nat) :
    (machine.after n).frame? = none := by
  cases n with
  | zero => exact unframed
  | succ n =>
    have halted : (machine.after (n + 1)).halted :=
      halted_after_of_le (Nat.succ_le_succ (Nat.zero_le n)) (silent_of_frame?_eq_none unframed).1
    rw [frame?, if_pos halted]

theorem getElem?_executed {i n : Nat} (lt : i < n) :
    (machine.executed n)[i]? = (machine.after i).frame? := by
  induction n generalizing machine i with
  | zero => cases lt
  | succ n ih =>
    unfold executed
    cases first : machine.frame? with
    | none => exact (frame?_after_eq_none first i).symm
    | some frame =>
      cases i with
      | zero => exact first.symm
      | succ i =>
        rw [← after_step]
        exact ih (Nat.lt_of_succ_lt_succ lt)

theorem length_executed_le (n : Nat) (machine : Machine) : (machine.executed n).length ≤ n := by
  induction n generalizing machine with
  | zero => exact Nat.le_refl 0
  | succ n ih =>
    unfold executed
    split
    · exact Nat.zero_le _
    · exact Nat.succ_le_succ (ih _)

/-- A recording may go on after the last frame. -/
theorem executed_recorded_iff (n : Nat) (entries : List (List Char)) :
    (machine.executed n).map .ok <+: entries.map Trace.readFrame ↔
      ∀ i < n, ¬ (machine.after i).Differs entries[i]? := by
  rw [List.prefix_iff_getElem?]
  constructor
  · intro recorded i lt differs
    obtain ⟨frame, shown, unread⟩ := differs_iff.1 differs
    rw [← getElem?_executed lt] at shown
    obtain ⟨small, rfl⟩ := List.getElem?_eq_some_iff.1 shown
    have read := recorded i (by rwa [List.length_map])
    rw [List.getElem?_map, List.getElem_map] at read
    exact unread read
  · intro same i small
    rw [List.length_map] at small
    have lt : i < n := Nat.lt_of_lt_of_le small (length_executed_le n machine)
    have shown : (machine.executed n)[i]? = (machine.after i).frame? := getElem?_executed lt
    rw [List.getElem?_eq_getElem small] at shown
    rw [List.getElem?_map, List.getElem_map]
    refine Decidable.byContradiction fun unread => ?_
    exact same i lt (differs_iff.2 ⟨_, shown.symm, unread⟩)

variable {plain watched : Machine} {rest : List (List Char)} {k fuel : Nat}

theorem Follows.run_eq (h : Follows plain watched rest) (stops : plain.StopsAt k) (lt : k < fuel)
    (same : ∀ i < fuel, ¬ (plain.after i).Differs rest[i]?) :
    (watched.run fuel).1 = (plain.run fuel).1 := by
  have stops' : watched.StopsAt k := by
    constructor
    · intro i before
      rw [h.step_after same (Nat.lt_trans before lt)]
      exact stops.running i before
    · rw [h.step_after same lt]
      exact stops.stops
  rw [stops'.run_eq lt, stops.run_eq lt, h.step_after same lt, (h.after same lt).alike.console]

theorem Follows.run_differs (h : Follows plain watched rest) (stops : plain.StopsAt k)
    (lt : k < fuel) {i : Nat} (same : ∀ j < i, ¬ (plain.after j).Differs rest[j]?)
    (differs : (plain.after i).Differs rest[i]?) :
    (watched.run fuel).1 = some (.error
      (.traceMismatch (String.ofList (rest.getD i [])) (plain.after i).traceLine)) := by
  -- a difference is met by a machine that is still running
  have le : i ≤ k := by
    refine Nat.le_of_not_lt fun late => ?_
    have halted := halted_after_of_le late stops.halted
    exact Bool.false_ne_true (differs.1.symm.trans halted)
  rw [← List.head?_drop] at differs
  obtain ⟨mismatch, _⟩ := (h.after same (Nat.le_refl i)).step_differs differs
  rw [List.headD_eq_head?_getD, List.head?_drop, ← List.getD_eq_getElem?_getD] at mismatch
  have stops' : watched.StopsAt i := by
    constructor
    · intro j before
      rw [h.step_after same before]
      exact stops.running j (Nat.lt_of_lt_of_le before le)
    · rw [mismatch]
      exact nofun
  rw [stops'.run_eq (Nat.lt_of_le_of_lt le lt), mismatch]
  rfl

theorem Follows.run_mismatches (h : Follows plain watched rest) (stops : plain.StopsAt k)
    (lt : k < fuel)
    (unrecorded : ¬ (plain.executed fuel).map .ok <+: rest.map Trace.readFrame) :
    ∃ i < fuel, (plain.after i).Differs rest[i]? ∧
      (∀ j < i, ¬ (plain.after j).Differs rest[j]?) ∧ (watched.run fuel).1 = some (.error
        (.traceMismatch (String.ofList (rest.getD i [])) (plain.after i).traceLine)) := by
  have differing : ∃ i, i < fuel ∧ (plain.after i).Differs rest[i]? := by
    refine Classical.byContradiction fun alike => unrecorded ?_
    rw [executed_recorded_iff]
    exact fun i small differs => alike ⟨i, small, differs⟩
  obtain ⟨small, differs⟩ := Nat.find_spec differing
  have same : ∀ j < Nat.find differing, ¬ (plain.after j).Differs rest[j]? := by
    intro j before differs
    exact Nat.find_min differing before ⟨Nat.lt_trans before small, differs⟩
  exact ⟨_, small, differs, same, h.run_differs stops lt same differs⟩

theorem run_ok_iff_recorded (console : Console) (program : List UInt8) (path log : String)
    (fuel : Nat) (ends : ((loaded console program).run fuel).1.isSome) :
    let plain := loaded console program
    let watched := (plain.compareAgainst path (.contents log.toUTF8)).2
    let recorded := (plain.executed fuel).map .ok <+: (Trace.frames log).map Trace.readFrame
    ((watched.run fuel).1 = some (.ok ()) ↔ (plain.run fuel).1 = some (.ok ()) ∧ recorded) ∧
    (recorded → (watched.run fuel).1 = (plain.run fuel).1) ∧
    (¬ recorded → ∃ i < fuel, (plain.after i).Differs (Trace.frames log)[i]? ∧
      (∀ j < i, ¬ (plain.after j).Differs (Trace.frames log)[j]?) ∧
      (watched.run fuel).1 = some (.error (.traceMismatch
        (String.ofList ((Trace.frames log).getD i [])) (plain.after i).traceLine))) := by
  intro plain watched recorded
  have start : Follows plain watched (Trace.frames log) := follows_loaded console program path log
  obtain ⟨k, lt, stops⟩ := exists_stopsAt (isSome_run ▸ ends)
  have agrees (h : recorded) : (watched.run fuel).1 = (plain.run fuel).1 :=
    start.run_eq stops lt ((executed_recorded_iff fuel _).1 h)
  have mismatches := start.run_mismatches stops lt
  refine ⟨⟨fun ok => ?_, fun ⟨ok, h⟩ => (agrees h).trans ok⟩, agrees, mismatches⟩
  have h : recorded := by
    refine Classical.byContradiction fun unrecorded => ?_
    obtain ⟨_, _, _, _, mismatch⟩ := mismatches unrecorded
    exact nomatch mismatch.symm.trans ok
  exact ⟨(agrees h).symm.trans ok, h⟩

/-- A frame too few is noticed. -/
theorem run_ok_iff_recorded_short :
    let plain := loaded {} [0, 1]
    let log := "TRACE: 00 | 00 01 00 | 00 00 00 00 00 00 00 F4\n"
    let watched := (plain.compareAgainst "log" (.contents log.toUTF8)).2
    (plain.run 2).1 = some (.ok ()) ∧ (watched.run 2).1 = some (.error
      (.traceMismatch "" "TRACE: 01 | 01 00 00 | 00 00 00 00 00 00 00 F4")) := by
  intro plain log watched
  have ok : (plain.run 2).1 = some (.ok ()) := by decide +kernel
  obtain ⟨_, _, mismatches⟩ := run_ok_iff_recorded {} [0, 1] "log" log 2 (by decide +kernel)
  obtain ⟨i, small, differs, _, mismatch⟩ := mismatches (by decide +kernel)
  have second : ∀ i < 2, (plain.after i).Differs (Trace.frames log)[i]? → i = 1 := by
    decide +kernel
  obtain rfl := second i small differs
  refine ⟨ok, mismatch.trans ?_⟩
  decide +kernel

/-- But not a frame too many: nothing asks for it once the program has halted. -/
theorem surplus_frame_accepted :
    let plain := loaded {} [1]
    let log := "TRACE: 00 | 01 00 00 | 00 00 00 00 00 00 00 F4\n" ++
      "TRACE: 00 | 01 00 00 | 00 00 00 00 00 00 00 F4\n"
    let watched := (plain.compareAgainst "log" (.contents log.toUTF8)).2
    (plain.run 1).1 = some (.ok ()) ∧ (watched.run 1).1 = some (.ok ()) ∧
      (Trace.frames log).map Trace.readFrame ≠ (plain.executed 1).map .ok := by
  decide +kernel

end Machine
end ByteMachine
