import ByteMachine.Proofs.Debugger.Transparency
import ByteMachine.Proofs.Semantics.Bounds

/-! All that can be done with a machine, directly or through the debugger. Loading and opening a
recording leave the processor alone, and everything else comes down to steps, so that the bounds
of a fresh processor are those of every machine there can be. -/

namespace ByteMachine

namespace Machine

def LeadsTo (machine other : Machine) : Prop :=
  ∃ n, other = machine.after n

variable {machine other : Machine}

theorem LeadsTo.refl (machine : Machine) : machine.LeadsTo machine :=
  ⟨0, rfl⟩

theorem LeadsTo.of_step (h : machine.step.2.LeadsTo other) : machine.LeadsTo other := by
  obtain ⟨n, rfl⟩ := h
  exact ⟨n + 1, after_step machine n⟩

theorem LeadsTo.bounded (h : machine.LeadsTo other) (bounded : machine.core.processor.Bounded) :
    other.core.processor.Bounded := by
  obtain ⟨n, rfl⟩ := h
  exact bounded_after bounded n

theorem leadsTo_step (machine : Machine) : machine.LeadsTo machine.step.2 :=
  .of_step (.refl _)

theorem leadsTo_advance (fuel : Nat) (machine : Machine) :
    machine.LeadsTo (machine.advance fuel).2 := by
  induction fuel generalizing machine with
  | zero => exact .refl machine
  | succ fuel ih =>
    by_cases first : machine.step.1 = .ok .running
    · rw [advance_running first]
      exact .of_step (ih _)
    · rw [advance_stopped first]
      exact machine.leadsTo_step

theorem leadsTo_run (fuel : Nat) (machine : Machine) : machine.LeadsTo (machine.run fuel).2 := by
  rw [run_snd]
  exact leadsTo_advance fuel machine

end Machine

namespace Debugger

theorem leadsTo_execute (fuel : Nat) (debugger : Debugger) (command : Command) :
    debugger.machine.LeadsTo (debugger.execute fuel command).2.machine := by
  obtain ⟨calls, carries⟩ := carries_execute fuel debugger command
  exact ⟨calls, carries.machine⟩

inductive Operation where
  | load (program : List UInt8)
  | compareAgainst (path : String) (file : FileAccess)
  | step
  | run (fuel : Nat)
  | finish (result : Except Fault Unit)
  | command (fuel : Nat) (command : Command)

def onMachine (debugger : Debugger) (machine : Machine) : Debugger :=
  { debugger with session.machine := machine }

def perform (debugger : Debugger) : Operation → Debugger
  | .load program => debugger.onMachine (debugger.machine.load program).2
  | .compareAgainst path file => debugger.onMachine (debugger.machine.compareAgainst path file).2
  | .step => debugger.onMachine debugger.machine.step.2
  | .run fuel => debugger.onMachine (debugger.machine.run fuel).2
  | .finish _ => debugger
  | .command fuel command => (debugger.execute fuel command).2

def performAll (debugger : Debugger) (operations : List Operation) : Debugger :=
  operations.foldl perform debugger

def fresh (console : Console) (reporting : Reporting) : Debugger :=
  { session := { machine := { console }, reporting } }

theorem bounded_perform {debugger : Debugger} (operation : Operation)
    (bounded : debugger.machine.core.processor.Bounded) :
    (debugger.perform operation).machine.core.processor.Bounded := by
  cases operation with
  | load | finish => exact bounded
  | compareAgainst path file => cases file <;> exact bounded
  | step => exact debugger.machine.leadsTo_step.bounded bounded
  | run fuel => exact (debugger.machine.leadsTo_run fuel).bounded bounded
  | command fuel command => exact (debugger.leadsTo_execute fuel command).bounded bounded

theorem bounded_performAll {debugger : Debugger} (operations : List Operation)
    (bounded : debugger.machine.core.processor.Bounded) :
    (debugger.performAll operations).machine.core.processor.Bounded := by
  induction operations generalizing debugger with
  | nil => exact bounded
  | cons operation operations ih => exact ih (bounded_perform operation bounded)

theorem reachable_bounded (console : Console) (reporting : Reporting)
    (operations : List Operation) :
    let machine := ((fresh console reporting).performAll operations).machine
    machine.pc.toNat ≤ 256 ∧ machine.core.processor.flags ∈ [0, 1, 2, 4] ∧ machine.Unwrapped := by
  intro machine
  have bounded : machine.core.processor.Bounded :=
    bounded_performAll operations ⟨Nat.zero_le _, List.mem_cons_self⟩
  exact ⟨bounded.pc, bounded.flags, Machine.unwrapped_of_bounded bounded⟩

theorem reachable_bounded_calling :
    let operations : List Operation := [.load [0x82, 1, 6, 0x50, 1, 0, 0x01], .step]
    let machine := ((fresh {} {}).performAll operations).machine
    let called := ((fresh {} {}).performAll (operations ++ [.step])).machine
    machine.pc = 3 ∧ machine.step.1 = .ok .running ∧ called.pc = 6 ∧ machine.Unwrapped ∧
      (called.core.memory.get called.core.processor.stackTop).toNat = machine.pc.toNat + 2 := by
  intro operations machine called
  obtain ⟨-, -, unwrapped⟩ := reachable_bounded {} {} operations
  have fetched : machine.fetch = .ok ⟨0x50, 1, 0⟩ := by decide +kernel
  have running : machine.step.1 = .ok .running := by decide +kernel
  have stepped : called = machine.step.2 := rfl
  refine ⟨by decide +kernel, running, by decide +kernel, unwrapped, ?_⟩
  rw [stepped]
  exact unwrapped.returned _ fetched (by decide) running

end Debugger
end ByteMachine
