import Mathlib.Algebra.GroupWithZero.Nat
import ByteMachine.Proofs.Debugger.Requests
import ByteMachine.Proofs.Semantics.Runs

/-! The debugger adds nothing to a run. Every line that it is given comes down to a number of plain
steps, most of them to none at all, and whatever is asked for in whatever order, the machine is
where those steps alone would have taken it. -/

namespace ByteMachine

namespace Machine

/-- The first step that does not leave the machine running, or takes it to a breakpoint. -/
structure BreaksAt (machine : Machine) (breakpoints : List UInt64) (k : Nat) : Prop where
  passes : ∀ i < k, (machine.after i).step.1 = .ok .running ∧
    (machine.after (i + 1)).pc ∉ breakpoints
  breaks : (machine.after k).step.1 = .ok .running → (machine.after (k + 1)).pc ∈ breakpoints

def lastReply (machine : Machine) : Except Fault Debugger.Reply :=
  machine.step.1.map fun
    | .halted => .halted
    | .running => .reached machine.step.2.pc machine.step.2.traceLine

theorem lastReply_eq_error {machine : Machine} {fault : Fault} :
    machine.lastReply = .error fault ↔ machine.step.1 = .error fault := by
  unfold lastReply
  cases machine.step.1 <;> simp only [Except.map, reduceCtorEq, Except.error.injEq]

variable {machine : Machine} {breakpoints : List UInt64} {k : Nat}

theorem breaksAt_succ_iff :
    machine.BreaksAt breakpoints (k + 1) ↔ machine.step.1 = .ok .running ∧
      machine.step.2.pc ∉ breakpoints ∧ machine.step.2.BreaksAt breakpoints k := by
  constructor
  · intro h
    obtain ⟨running, off⟩ := h.passes 0 (Nat.zero_lt_succ k)
    refine ⟨running, off, fun i lt => ?_, ?_⟩
    · rw [after_step, after_step]
      exact h.passes (i + 1) (Nat.succ_lt_succ lt)
    · rw [after_step, after_step]
      exact h.breaks
  · rintro ⟨running, off, rest⟩
    refine ⟨fun i lt => ?_, ?_⟩
    · cases i with
      | zero => exact ⟨running, off⟩
      | succ i =>
        rw [← after_step, ← after_step]
        exact rest.passes i (Nat.lt_of_succ_lt_succ lt)
    · rw [← after_step, ← after_step]
      exact rest.breaks

end Machine

namespace Debugger

theorem stepTimes_running {session : Session} (first : session.step.1 = .ok .running)
    (count : Nat) : stepTimes (count + 1) session = stepTimes count session.step.2 := by
  rw [stepTimes]
  split <;> rename_i step
  · rw [step]
  · exact (step session.step.2 (Prod.ext first rfl)).elim

theorem stepTimes_stopped {session : Session} (stopped : session.step.1 ≠ .ok .running)
    (count : Nat) : stepTimes (count + 1) session = session.step := by
  rw [stepTimes]
  split <;> rename_i step
  · rw [step] at stopped
    exact absurd rfl stopped
  · rfl

theorem stepTimes_cases (count : Nat) (session : Session) :
    (stepTimes count session).1 = .ok .running ∧
      (stepTimes count session).2.machine = session.machine.after count ∧
      (∀ i < count, (session.machine.after i).step.1 = .ok .running) ∨
    ∃ k < count, session.machine.StopsAt k ∧
      (stepTimes count session).1 = (session.machine.after k).step.1 ∧
      (stepTimes count session).2.machine = session.machine.after (k + 1) := by
  induction count generalizing session with
  | zero => exact .inl ⟨rfl, rfl, nofun⟩
  | succ count ih =>
    by_cases first : session.machine.step.1 = .ok .running
    · rw [stepTimes_running (session.result_step.trans first)]
      rcases ih session.step.2 with ⟨result, after, running⟩ | ⟨k, lt, stops, result, after⟩
      · rw [session.machine_step] at after running
        refine .inl ⟨result, after.trans (Machine.after_step ..), fun i lt => ?_⟩
        cases i with
        | zero => exact first
        | succ i =>
          rw [← Machine.after_step]
          exact running i (Nat.lt_of_succ_lt_succ lt)
      · rw [session.machine_step] at stops result after
        rw [Machine.after_step] at result after
        exact .inr ⟨k + 1, Nat.succ_lt_succ lt, Machine.stopsAt_succ_iff.2 ⟨first, stops⟩,
          result, after⟩
    · rw [stepTimes_stopped (session.result_step ▸ first)]
      exact .inr ⟨0, Nat.zero_lt_succ count, ⟨nofun, first⟩, session.result_step,
        session.machine_step⟩

theorem runToBreak_passing {debugger : Debugger}
    (first : debugger.session.step.1 = .ok .running)
    (off : debugger.session.step.2.machine.pc ∉ debugger.breakpoints) (fuel : Nat) :
    debugger.runToBreak (fuel + 1) =
      { debugger with session := debugger.session.step.2 }.runToBreak fuel := by
  rw [runToBreak]
  split <;> rename_i step <;> rw [step] at first off ⊢
  · cases first
  · cases first
  · rw [if_neg (by rwa [List.contains_iff_mem])]

theorem runToBreak_breaking {debugger : Debugger}
    (breaks : debugger.machine.BreaksAt debugger.breakpoints 0) (fuel : Nat) :
    debugger.runToBreak (fuel + 1) = (some debugger.machine.lastReply,
      { debugger with session := debugger.session.step.2 }) := by
  have result := debugger.session.result_step
  have after := debugger.session.machine_step
  have reached : debugger.session.machine.step.1 = .ok .running →
    debugger.session.machine.step.2.pc ∈ debugger.breakpoints := breaks.breaks
  rw [Machine.lastReply, runToBreak, machine]
  split <;> rename_i step <;> rw [step] at result after ⊢
  · rw [← result]
    rfl
  · rw [← result]
    rfl
  · rw [← result, ← after] at reached ⊢
    rw [if_pos (List.contains_iff_mem.2 (reached rfl))]
    rfl

theorem runToBreak_cases (fuel : Nat) (debugger : Debugger) :
    (debugger.runToBreak fuel).1 = none ∧
      (debugger.runToBreak fuel).2.machine = debugger.machine.after fuel ∨
    ∃ k < fuel, debugger.machine.BreaksAt debugger.breakpoints k ∧
      (debugger.runToBreak fuel).1 = some (debugger.machine.after k).lastReply ∧
      (debugger.runToBreak fuel).2.machine = debugger.machine.after (k + 1) := by
  induction fuel generalizing debugger with
  | zero => exact .inl ⟨rfl, rfl⟩
  | succ fuel ih =>
    have after := debugger.session.machine_step
    by_cases passes : debugger.machine.step.1 = .ok .running ∧
        debugger.machine.step.2.pc ∉ debugger.breakpoints
    · obtain ⟨first, off⟩ := passes
      rw [runToBreak_passing (debugger.session.result_step.trans first) (after ▸ off)]
      have next : ({ debugger with session := debugger.session.step.2 } : Debugger).machine =
        debugger.machine.step.2 := after
      rcases ih { debugger with session := debugger.session.step.2 } with
        ⟨result, after⟩ | ⟨k, lt, breaks, result, after⟩
      · rw [next, Machine.after_step] at after
        exact .inl ⟨result, after⟩
      · rw [next] at breaks
        rw [next, Machine.after_step] at result after
        exact .inr ⟨k + 1, Nat.succ_lt_succ lt,
          Machine.breaksAt_succ_iff.2 ⟨first, off, breaks⟩, result, after⟩
    · have breaks : debugger.machine.BreaksAt debugger.breakpoints 0 :=
        ⟨nofun, fun first => Decidable.byContradiction fun off => passes ⟨first, off⟩⟩
      rw [runToBreak_breaking breaks]
      exact .inr ⟨0, Nat.zero_lt_succ fuel, breaks, rfl, after⟩

theorem exists_resume_eq {debugger : Debugger}
    (running : debugger.machine.halted = false) (fuel : Nat) :
    ∃ told : Debugger, told.machine = debugger.machine ∧
      told.breakpoints = debugger.breakpoints ∧ debugger.resume fuel = told.runToBreak fuel := by
  refine ⟨{ debugger with
    session := debugger.session.tell "debugger" "Starting execution now..." },
    Session.machine_tell .., rfl, ?_⟩
  rw [resume, if_neg (by simp only [running, Bool.false_eq_true, not_false_eq_true])]

theorem resume_cases (fuel : Nat) (debugger : Debugger) :
    debugger.machine.halted ∧ debugger.resume fuel = (some (.ok .halted), debugger) ∨
    debugger.machine.halted = false ∧
      ((debugger.resume fuel).1 = none ∧
          (debugger.resume fuel).2.machine = debugger.machine.after fuel ∨
        ∃ k < fuel, debugger.machine.BreaksAt debugger.breakpoints k ∧
          (debugger.resume fuel).1 = some (debugger.machine.after k).lastReply ∧
          (debugger.resume fuel).2.machine = debugger.machine.after (k + 1)) := by
  cases halted : debugger.machine.halted with
  | true => exact .inl ⟨rfl, if_pos halted⟩
  | false =>
    obtain ⟨told, machine, breakpoints, resumed⟩ := exists_resume_eq halted fuel
    rw [resumed, ← machine, ← breakpoints]
    exact .inr ⟨rfl, runToBreak_cases fuel told⟩

/-- The number of calls of `step` that a demand comes to. -/
inductive Demand.Takes (machine : Machine) (breakpoints : List UInt64) : Demand → Nat → Prop where
  | nothing : Takes machine breakpoints .nothing 0
  | all {count : Nat} (running : ∀ i < count, (machine.after i).step.1 = .ok .running) :
      Takes machine breakpoints (.steps count) count
  | stopping {count k : Nat} (lt : k < count) (stops : machine.StopsAt k) :
      Takes machine breakpoints (.steps count) (k + 1)
  | halted (halted : machine.halted) : Takes machine breakpoints .runToBreak 0
  | breaking {k : Nat} (running : machine.halted = false)
      (breaks : machine.BreaksAt breakpoints k) : Takes machine breakpoints .runToBreak (k + 1)

def Faults (machine : Machine) (calls : Nat) (fault : Fault) : Prop :=
  ∃ k, k + 1 = calls ∧ (machine.after k).step.1 = .error fault

theorem not_faults_zero (machine : Machine) (fault : Fault) : ¬ Faults machine 0 fault := by
  rintro ⟨k, none, _⟩
  cases none

theorem faults_succ {machine : Machine} {k : Nat} {fault : Fault} :
    Faults machine (k + 1) fault ↔ (machine.after k).step.1 = .error fault := by
  constructor
  · rintro ⟨_, same, faulted⟩
    obtain rfl := Nat.succ.inj same
    exact faulted
  · exact fun faulted => ⟨k, rfl, faulted⟩

structure Carries (debugger : Debugger) (demand : Demand)
    (outcome : Option (Except Fault Reply) × Debugger) (calls : Nat) : Prop where
  machine : outcome.2.machine = debugger.machine.after calls
  returns : demand ≠ .runToBreak → outcome.1 ≠ none
  takes : outcome.1 ≠ none → demand.Takes debugger.machine debugger.breakpoints calls
  faults : outcome.1 ≠ none → ∀ fault,
    outcome.1 = some (.error fault) ↔ Faults debugger.machine calls fault

theorem Carries.idle {debugger other : Debugger} (reply : Reply)
    (same : other.machine = debugger.machine) :
    Carries debugger .nothing (some (.ok reply), other) 0 where
  machine := same
  returns _ := nofun
  takes _ := .nothing
  faults _ fault := iff_of_false nofun (not_faults_zero _ fault)

theorem machine_stepMany (debugger : Debugger) (count : Nat) :
    (debugger.step count).2.machine = (stepTimes count debugger.session).2.machine := by
  unfold step
  split <;> rename_i stepped <;> rw [stepped] <;> rfl

theorem step_eq_error {debugger : Debugger} {count : Nat} {fault : Fault} :
    (debugger.step count).1 = .error fault ↔
      (stepTimes count debugger.session).1 = .error fault := by
  unfold step
  split <;> rename_i stepped <;>
    simp only [stepped, reduceCtorEq, Except.error.injEq]

theorem carries_step (debugger : Debugger) (count : Nat) :
    ∃ calls, Carries debugger (.steps count)
      (some (debugger.step count).1, (debugger.step count).2) calls := by
  rcases stepTimes_cases count debugger.session with
    ⟨result, after, running⟩ | ⟨k, lt, stops, result, after⟩
  · refine ⟨count, (machine_stepMany debugger count).trans after, fun _ => nofun,
      fun _ => .all running, fun _ fault => ?_⟩
    rw [Option.some_inj, step_eq_error, result]
    refine iff_of_false nofun ?_
    rintro ⟨k, rfl, faulted⟩
    exact nomatch (running k (Nat.lt_succ_self k)).symm.trans faulted
  · refine ⟨k + 1, (machine_stepMany debugger count).trans after, fun _ => nofun,
      fun _ => .stopping lt stops, fun _ fault => ?_⟩
    rw [Option.some_inj, step_eq_error, result, faults_succ]
    rfl

theorem carries_resume (fuel : Nat) (debugger : Debugger) :
    ∃ calls, Carries debugger .runToBreak (debugger.resume fuel) calls := by
  rcases resume_cases fuel debugger with
    ⟨halted, stays⟩ | ⟨running, ⟨silent, after⟩ | ⟨k, -, breaks, last, after⟩⟩
  · rw [stays]
    exact ⟨0, rfl, fun _ => nofun, fun _ => .halted halted, fun _ fault =>
      iff_of_false nofun (not_faults_zero _ fault)⟩
  · exact ⟨fuel, after, fun other => absurd rfl other, fun answered => absurd silent answered,
      fun answered => absurd silent answered⟩
  · refine ⟨k + 1, after, fun other => absurd rfl other, fun _ => .breaking running breaks,
      fun _ fault => ?_⟩
    rw [last, Option.some_inj, Machine.lastReply_eq_error, faults_succ]

theorem machine_editBreak (debugger : Debugger) (arguments : List String)
    {edit : UInt64 → Reply × Debugger}
    (h : ∀ address, (edit address).2.machine = debugger.machine) :
    (debugger.editBreak arguments edit).2.machine = debugger.machine := by
  unfold editBreak
  split
  · rfl
  · split
    · rfl
    · exact h _

theorem carries_execute (fuel : Nat) (debugger : Debugger) (command : Command) :
    ∃ calls, Carries debugger command.demand (debugger.execute fuel command) calls := by
  unfold execute Command.demand
  cases command.verb with
  | step =>
    dsimp only
    cases numberOr 1 command.arguments.head? with
    | error error => exact ⟨0, .idle _ rfl⟩
    | ok count => exact carries_step debugger _
  | resume => exact carries_resume fuel debugger
  | setBreak => exact ⟨0, .idle _ (machine_editBreak debugger _ fun _ => rfl)⟩
  | clearBreak =>
    refine ⟨0, .idle _ (machine_editBreak debugger _ fun address => ?_)⟩
    split <;> rfl
  | registers | dump | trace | help | quit => exact ⟨0, .idle _ rfl⟩

def obey (fuel : Nat) (debugger : Debugger) (line : String) : Debugger :=
  match interpret line with
  | .error _ => debugger
  | .ok command => (debugger.execute fuel command).2

def obeyAll (fuel : Nat) (debugger : Debugger) (lines : List String) : Debugger :=
  lines.foldl (obey fuel) debugger

def answer (fuel : Nat) (debugger : Debugger) (line : String) :
    Except CommandError (Option (Except Fault Reply)) :=
  (interpret line).map fun command => (debugger.execute fuel command).1

/-- What becomes of one line: the calls of `step` that it asks for are made, and a fault is its
answer just when the last of them has met one. -/
structure Obeys (fuel : Nat) (debugger : Debugger) (line : String) (calls : Nat) : Prop where
  takes : ∃ wanted, Asks line wanted ∧
    wanted.Takes debugger.machine debugger.breakpoints calls
  machine : (debugger.obey fuel line).machine = debugger.machine.after calls
  faults : ∀ fault, debugger.answer fuel line = .ok (some (.error fault)) ↔
    Faults debugger.machine calls fault

theorem exists_obeys {fuel : Nat} {debugger : Debugger} {line : String}
    (returns : Asks line .runToBreak → debugger.answer fuel line ≠ .ok none) :
    ∃ calls, Obeys fuel debugger line calls := by
  have asks : Asks line (demand line) := asks_iff.2 rfl
  cases interpreted : interpret line with
  | error error =>
    have idle : demand line = .nothing := by rw [demand, interpreted]
    refine ⟨0, ⟨.nothing, idle ▸ asks, .nothing⟩, ?_,
      fun fault => iff_of_false ?_ (not_faults_zero _ fault)⟩
    · rw [obey, interpreted]
      rfl
    · rw [answer, interpreted]
      rintro ⟨⟩
  | ok command =>
    have wanted : demand line = command.demand := by rw [demand, interpreted]
    obtain ⟨calls, carries⟩ := carries_execute fuel debugger command
    have answered : debugger.answer fuel line = .ok (debugger.execute fuel command).1 := by
      rw [answer, interpreted]
      rfl
    have returned : (debugger.execute fuel command).1 ≠ none := by
      by_cases runs : command.demand = .runToBreak
      · have returns := returns (asks_iff.2 (wanted.trans runs))
        rwa [answered, ne_eq, Except.ok.injEq] at returns
      · exact carries.returns runs
    refine ⟨calls, ⟨command.demand, wanted ▸ asks, carries.takes returned⟩, ?_, fun fault => ?_⟩
    · rw [obey, interpreted]
      exact carries.machine
    · rw [answered, Except.ok.injEq]
      exact carries.faults returned fault

theorem exists_calls {fuel : Nat} {debugger : Debugger} {lines : List String}
    (returns : ∀ i (h : i < lines.length), Asks lines[i] .runToBreak →
      (debugger.obeyAll fuel (lines.take i)).answer fuel lines[i] ≠ .ok none) :
    ∃ calls : List Nat, calls.length = lines.length ∧
      (∀ i (h : i < lines.length) (h' : i < calls.length),
        Obeys fuel (debugger.obeyAll fuel (lines.take i)) lines[i] calls[i]) ∧
      ∀ i ≤ lines.length, (debugger.obeyAll fuel (lines.take i)).machine =
        debugger.machine.after (calls.take i).sum := by
  induction lines generalizing debugger with
  | nil =>
    refine ⟨[], rfl, nofun, fun i le => ?_⟩
    obtain rfl := Nat.le_zero.1 le
    rfl
  | cons line lines ih =>
    obtain ⟨first, obeys⟩ : ∃ first, Obeys fuel debugger line first :=
      exists_obeys (returns 0 (Nat.zero_lt_succ _))
    obtain ⟨calls, length, each, machine⟩ := @ih (debugger.obey fuel line)
      fun i h => returns (i + 1) (Nat.succ_lt_succ h)
    refine ⟨first :: calls, congrArg Nat.succ length, fun i h h' => ?_, fun i le => ?_⟩
    · cases i with
      | zero => exact obeys
      | succ i => exact each i (Nat.lt_of_succ_lt_succ h) (Nat.lt_of_succ_lt_succ h')
    · cases i with
      | zero => rfl
      | succ i =>
        refine (machine i (Nat.le_of_succ_le_succ le)).trans ?_
        rw [obeys.machine]
        exact Machine.after_add ..

theorem debugger_transparent (fuel : Nat) (debugger : Debugger) (lines : List String)
    (returns : ∀ i (h : i < lines.length), Asks lines[i] .runToBreak →
      (debugger.obeyAll fuel (lines.take i)).answer fuel lines[i] ≠ .ok none) :
    let final := (debugger.obeyAll fuel lines).machine
    (∀ line, ∃! wanted, Asks line wanted) ∧
    ∃ calls : List Nat, calls.length = lines.length ∧
      (∀ i (h : i < lines.length) (h' : i < calls.length),
        Obeys fuel (debugger.obeyAll fuel (lines.take i)) lines[i] calls[i]) ∧
      final = debugger.machine.after calls.sum ∧
      (final.halted → ∀ budget, calls.sum < budget →
        (debugger.machine.run budget).1.isSome ∧ (debugger.machine.run budget).2 = final) := by
  intro final
  obtain ⟨calls, length, each, machine⟩ := exists_calls returns
  have whole : final = debugger.machine.after calls.sum := by
    have last := machine lines.length (Nat.le_refl _)
    rwa [List.take_length, ← length, List.take_length] at last
  refine ⟨existsUnique_asks, calls, length, each, whole, fun halted budget lt => ?_⟩
  rw [whole] at halted ⊢
  exact Machine.run_of_halted halted lt

/-- Lines of every kind: a breakpoint that is reached, a count that is none, a quote that is not
closed, and more steps than the program has. -/
theorem debugger_transparent_session :
    let machine := Machine.loaded {} [0x82, 0, 8, 0x47, 0, 0x01]
    let lines := ["walk", "b 0x3", "c", "step two", "\"regs", "S 0b101", "\tCONTINUE now"]
    let final := (({ session := { machine } } : Debugger).obeyAll 10 lines).machine
    final.halted ∧ final.console.written = "8\n".toUTF8 ∧
      Asks "walk" .nothing ∧ Asks "step two" .nothing ∧ Asks "\"regs" .nothing ∧
      Asks "S 0b101" (.steps 5) ∧ Asks "\tCONTINUE now" .runToBreak ∧
      ∃ calls, final = machine.after calls ∧
        ∀ budget, calls < budget → (machine.run budget).2 = final := by
  intro machine lines final
  have halted : final.halted := by decide +kernel
  have returns : ∀ i (h : i < lines.length), (({ session := { machine } } : Debugger).obeyAll 10
      (lines.take i)).answer 10 lines[i] ≠ .ok none := by decide +kernel
  obtain ⟨_, calls, _, _, after, run⟩ :=
    debugger_transparent 10 { session := { machine } } lines fun i h _ => returns i h
  refine ⟨halted, by decide +kernel, ?_, ?_, ?_, ?_, ?_, calls.sum, after,
    fun budget lt => (run halted budget lt).2⟩ <;> exact asks_iff.2 (by decide +kernel)

end Debugger
end ByteMachine
