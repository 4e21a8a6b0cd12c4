import ByteMachine.Proofs.Semantics.Printing
import ByteMachine.Proofs.Trace.Lockstep
import ByteMachine.Proofs.Trace.Recording

/-! A run recorded line by line, with all that the program prints in between, replays: a machine
that is compared with the recording never differs from it. -/

namespace ByteMachine

theorem Instruction.output_of_effect {instruction : Instruction} {core after : Core}
    {printed : Option String} (h : instruction.effect core = .ok (.proceed after printed)) :
    Trace.Output (printed.getD "").toList := by
  obtain ⟨opcode, decoded, h⟩ := Instruction.proceeds_of_effect h
  cases h with
  | prn named =>
    rw [Option.getD_some, String.toList_append]
    exact .number _
  | pra named =>
    rw [Option.getD_some, String.toList_singleton]
    exact .character _
  | _ => exact .nothing

namespace Machine

def printed (machine : Machine) : ByteArray :=
  machine.step.2.console.written.extract machine.console.written.size
    machine.step.2.console.written.size

/-- A line for each step before it is made, and after it what it printed. -/
def record : Nat → Machine → ByteArray
  | 0, _ => .empty
  | n + 1, machine =>
    if machine.halted then .empty
    else machine.traceLine.toUTF8 ++ "\n".toUTF8 ++ machine.printed ++ machine.step.2.record n

def traceLines : Nat → Machine → List (List Char)
  | 0, _ => []
  | n + 1, machine =>
    if machine.halted then [] else machine.traceLine.toList :: machine.step.2.traceLines n

variable {machine : Machine}

theorem exists_output (reliable : machine.console.Reliable) :
    ∃ out, Trace.Output out ∧ machine.step.2.console = { machine.console with
      written := machine.console.written ++ (String.ofList out).toUTF8 } := by
  obtain ⟨printed, console, origin⟩ := exists_printed reliable
  refine ⟨(printed.getD "").toList, ?_, by rw [console, String.ofList_toList]⟩
  obtain rfl | ⟨instruction, core, effect⟩ := origin
  · exact .nothing
  · exact Instruction.output_of_effect effect

theorem printed_eq {out : List Char} (console : machine.step.2.console = { machine.console with
    written := machine.console.written ++ (String.ofList out).toUTF8 }) :
    machine.printed = (String.ofList out).toUTF8 := by
  rw [printed, console]
  exact ByteArray.extract_append_eq_right rfl (by rw [ByteArray.size_append])

theorem exists_record_eq (reliable : machine.console.Reliable) (n : Nat) :
    ∃ text, machine.record n = (String.ofList text).toUTF8 ∧
      (text = [] ∨ Trace.tag <+: text) ∧
      Trace.entries (Text.pieces '\n' text) = machine.traceLines n := by
  induction n generalizing machine with
  | zero => exact ⟨[], rfl, .inl rfl, rfl⟩
  | succ n ih =>
    cases halted : machine.halted with
    | true =>
      refine ⟨[], ?_, .inl rfl, ?_⟩
      · rw [record, if_pos halted]
        rfl
      · rw [traceLines, if_pos halted]
        rfl
    | false =>
      -- the rest of the recording is empty or starts with a tag, whatever was printed before it
      obtain ⟨out, output, console⟩ := exists_output reliable
      obtain ⟨text, recorded, tagged, entries⟩ := ih (reliable_step reliable)
      have running : ¬ machine.halted := by rw [halted]; exact Bool.false_ne_true
      have joined : String.ofList (machine.traceLine.toList ++ '\n' :: (out ++ text)) =
          machine.traceLine ++ "\n" ++ String.ofList out ++ String.ofList text := by
        rw [← String.toList_inj]
        simp only [String.toList_append, String.toList_ofList, List.append_assoc]
        rfl
      refine ⟨machine.traceLine.toList ++ '\n' :: (out ++ text), ?_, .inr ?_, ?_⟩
      · rw [record, if_neg running, printed_eq console, recorded, joined]
        simp only [String.toUTF8, String.toByteArray_append]
      · exact (Trace.isEntry_line _ _).tagged.trans (List.prefix_append _ _)
      · rw [traceLines, if_neg running, ← entries,
          ← Trace.entries_append_of_clear output.clear tagged]
        exact (Trace.isEntry_line _ _).entries_append _

theorem getElem?_traceLines {i n : Nat} (lt : i < n) (running : (machine.after i).halted = false) :
    (machine.traceLines n)[i]? = some (machine.after i).traceLine.toList := by
  induction n generalizing machine i with
  | zero => cases lt
  | succ n ih =>
    have first : machine.halted = false := running_of_le (Nat.zero_le i) running
    rw [traceLines, if_neg (by rw [first]; exact Bool.false_ne_true)]
    cases i with
    | zero => rfl
    | succ i =>
      rw [← after_step] at running ⊢
      exact ih (Nat.lt_of_succ_lt_succ lt) running

theorem not_differs_traceLine (machine : Machine) :
    ¬ machine.Differs (some machine.traceLine.toList) := by
  rintro ⟨running, instruction, fetched, unlike⟩
  have small := pc_lt_size fetched
  rw [Trace.unlike_iff small, Option.getD_some, ← line_eq_traceLine fetched,
    Trace.agree_line small] at unlike
  exact unlike ⟨_, Trace.readFrame_line small instruction, (Trace.shows_iff small).2 rfl⟩

theorem step_ne_traceMismatch (unlogged : machine.log = none) (expected actual : String) :
    machine.step.1 ≠ .error (.traceMismatch expected actual) := by
  intro mismatch
  cases halted : machine.halted with
  | true =>
    rw [step_halted halted] at mismatch
    cases mismatch
  | false =>
    have steps := stepsTo_step halted
    rw [mismatch] at steps
    generalize machine.step.2 = after at steps
    cases steps with
    | unfetched fetched => exact nomatch OwnFaults.fetch _ _ _ fetched
    | differing fetched compared =>
      rw [compared_of_unlogged unlogged] at compared
      cases compared
    | faulting fetched compared effect =>
      exact nomatch Instruction.ownFaults_effect _ _ _ effect
    | unprinted fetched compared effect offered =>
      obtain ⟨_, _, _, _, other, _⟩ := Console.offer_error offered
      cases other

theorem replay_of_record (console : Console) (reliable : console.Reliable) (program : List UInt8)
    (path : String) (n : Nat) :
    let recorded := loaded console program
    let replayed := (recorded.compareAgainst path (.contents (recorded.record n))).2
    (∀ i < n, (replayed.after i).step.1 = (recorded.after i).step.1 ∧
      ∀ expected actual, (replayed.after i).step.1 ≠ .error (.traceMismatch expected actual)) ∧
    ∀ i ≤ n, (recorded.after i).Alike (replayed.after i) := by
  intro recorded replayed
  have reliable' : recorded.console.Reliable := reliable
  obtain ⟨text, written, _, entries⟩ := exists_record_eq reliable' n
  have start : Follows recorded replayed (recorded.traceLines n) := by
    have follows := follows_loaded console program path (String.ofList text)
    rwa [← written, Trace.frames, String.toList_ofList, entries] at follows
  have same : ∀ i < n, ¬ (recorded.after i).Differs (recorded.traceLines n)[i]? := by
    intro i lt differs
    rw [getElem?_traceLines lt differs.1] at differs
    exact not_differs_traceLine _ differs
  refine ⟨fun i lt => ?_, fun i le => (start.after same le).alike⟩
  rw [start.step_after same lt]
  exact ⟨rfl, step_ne_traceMismatch (start.after same (Nat.le_of_lt lt)).unlogged⟩

theorem replay_of_record_glued :
    let recorded := loaded {} [0x82, 0, 0x54, 0x48, 0, 0x01]
    let replayed := (recorded.compareAgainst "log" (.contents (recorded.record 3))).2
    recorded.record 3 = ("TRACE: 00 | 82 00 54 | 00 00 00 00 00 00 00 F4\n" ++
      "TRACE: 03 | 48 00 01 | 54 00 00 00 00 00 00 F4\n" ++
      "TTRACE: 05 | 01 00 00 | 54 00 00 00 00 00 00 F4\n").toUTF8 ∧
    (replayed.after 2).step.1 = .ok .halted ∧ (recorded.after 3).Alike (replayed.after 3) := by
  intro recorded replayed
  have reliable : ({} : Console).Reliable := fun _ _ => rfl
  obtain ⟨results, alike⟩ := replay_of_record {} reliable [0x82, 0, 0x54, 0x48, 0, 0x01] "log" 3
  have halted : (recorded.after 2).step.1 = .ok .halted := by decide +kernel
  exact ⟨by decide +kernel, (results 2 (by decide)).1.trans halted, alike 3 (Nat.le_refl 3)⟩

end Machine
end ByteMachine
