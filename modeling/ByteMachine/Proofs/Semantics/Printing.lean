import ByteMachine.Proofs.Semantics.Runs

/-! What a run leaves on a console that takes everything. A step adds the text of its instruction,
if that has one, and nothing is ever taken back. -/

namespace ByteMachine

namespace Machine

variable {machine : Machine}

theorem exists_printed (reliable : machine.console.Reliable) :
    ∃ printed : Option String,
      machine.step.2.console = { machine.console with
        written := machine.console.written ++ (printed.getD "").toUTF8 } ∧
      (printed = none ∨ ∃ (instruction : Instruction) (core : Core),
        instruction.effect machine.core = .ok (.proceed core printed)) := by
  have unchanged : machine.console = { machine.console with
      written := machine.console.written ++ "".toUTF8 } := by
    have nothing : machine.console.written ++ "".toUTF8 = machine.console.written :=
      ByteArray.append_empty
    rw [nothing]
  cases halted : machine.halted with
  | true =>
    rw [step_halted halted]
    exact ⟨none, unchanged, .inl rfl⟩
  | false =>
    have steps := stepsTo_step halted
    generalize machine.step.1 = result at steps
    generalize machine.step.2 = after at steps ⊢
    cases steps with
    | unfetched | differing | faulting | halting => exact ⟨none, unchanged, .inl rfl⟩
    | unprinted fetched compared effect offered =>
      rw [reliable.offer] at offered
      cases offered
    | proceeding fetched compared effect offered =>
      rw [reliable.offer] at offered
      cases offered
      exact ⟨_, rfl, .inr ⟨_, _, effect⟩⟩

theorem reliable_step (reliable : machine.console.Reliable) :
    machine.step.2.console.Reliable := by
  obtain ⟨printed, console, _⟩ := exists_printed reliable
  rw [console]
  exact reliable

theorem reliable_after (reliable : machine.console.Reliable) (n : Nat) :
    (machine.after n).console.Reliable := by
  induction n with
  | zero => exact reliable
  | succ n ih => exact reliable_step ih

theorem exists_written_after (reliable : machine.console.Reliable) {m n : Nat} (le : m ≤ n) :
    ∃ more, (machine.after n).console.written = (machine.after m).console.written ++ more := by
  induction le with
  | refl => exact ⟨.empty, ByteArray.append_empty.symm⟩
  | @step n _ ih =>
    obtain ⟨more, written⟩ := ih
    obtain ⟨printed, console, _⟩ := exists_printed (reliable_after reliable n)
    refine ⟨more ++ (printed.getD "").toUTF8, ?_⟩
    rw [after, console, written, ByteArray.append_assoc]

end Machine
end ByteMachine
