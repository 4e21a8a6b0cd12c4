import Mathlib.Data.Nat.Count
import Mathlib.Order.Bounds.Defs
import ByteMachine.Proofs.Debugger.Transparency
import ByteMachine.Proofs.Text.Digits

/-! Where a run to a breakpoint ends. The breakpoints are those that were set and not cleared again
since, and the run takes the least number of steps, but at least one, after which the machine has
stopped or stands at one of them. Asked for again and again, it stands at each of them that a plain
run comes by, one after the other. -/

namespace ByteMachine

def Debugger.Reply.atBreakpoint (machine : Machine) : Reply :=
  .reached machine.pc machine.traceLine

namespace Machine

def Arrives (machine : Machine) (addresses : Set UInt64) (i : Nat) : Prop :=
  (machine.after i).step.1 = .ok .running ∧ (machine.after (i + 1)).pc ∈ addresses

/-- The step after so many others does not leave the machine running, or takes it to one of the
addresses. -/
def Pauses (machine : Machine) (addresses : Set UInt64) (i : Nat) : Prop :=
  (machine.after i).step.1 ≠ .ok .running ∨ (machine.after (i + 1)).pc ∈ addresses

variable {machine : Machine} {breakpoints : List UInt64} {addresses : Set UInt64} {k : Nat}

instance [DecidablePred (· ∈ addresses)] : DecidablePred (machine.Arrives addresses) :=
  fun _ => inferInstanceAs (Decidable (_ ∧ _))

theorem not_pauses {i : Nat} :
    ¬ machine.Pauses addresses i ↔
      (machine.after i).step.1 = .ok .running ∧ (machine.after (i + 1)).pc ∉ addresses := by
  rw [Pauses, not_or, not_not]

theorem breaksAt_iff_isLeast (same : ∀ address, address ∈ addresses ↔ address ∈ breakpoints) :
    machine.BreaksAt breakpoints k ↔ IsLeast {i | machine.Pauses addresses i} k := by
  constructor
  · intro h
    refine ⟨?_, fun i pauses => Nat.le_of_not_lt fun early => ?_⟩
    · by_cases running : (machine.after k).step.1 = .ok .running
      · exact .inr ((same _).2 (h.breaks running))
      · exact .inl running
    · obtain ⟨running, off⟩ := h.passes i early
      exact not_pauses.2 ⟨running, fun on => off ((same _).1 on)⟩ pauses
  · rintro ⟨pauses, least⟩
    refine ⟨fun i early => ?_, fun running => ?_⟩
    · obtain ⟨running, off⟩ := not_pauses.1 fun pausing => Nat.not_le_of_lt early (least pausing)
      exact ⟨running, fun on => off ((same _).2 on)⟩
    · exact (same _).1 (pauses.resolve_left (not_not_intro running))

theorem lastReply_of_halting (halts : machine.step.1 = .ok .halted) :
    machine.lastReply = .ok .halted := by
  rw [lastReply, halts]
  rfl

theorem lastReply_of_running (running : machine.step.1 = .ok .running) :
    machine.lastReply = .ok (.atBreakpoint machine.step.2) := by
  rw [lastReply, running]
  rfl

theorem lastReply_cases {reply : Debugger.Reply} (said : machine.lastReply = .ok reply) :
    machine.step.1 = .ok .halted ∧ reply = .halted ∨
      machine.step.1 = .ok .running ∧ reply = .atBreakpoint machine.step.2 := by
  unfold lastReply at said
  cases result : machine.step.1 with
  | error fault =>
    rw [result] at said
    cases said
  | ok status =>
    rw [result] at said
    cases status with
    | halted => exact .inl ⟨rfl, (Except.ok.inj said).symm⟩
    | running => exact .inr ⟨rfl, (Except.ok.inj said).symm⟩

theorem running_of_lt {i : Nat} (running : (machine.after k).halted = false) (lt : i < k) :
    (machine.after i).step.1 = .ok .running := by
  refine Decidable.byContradiction fun stopped => ?_
  have before := running_of_le (Nat.le_of_lt lt) running
  have halted : (machine.after (i + 1)).halted := (stepsTo_step before).halted stopped
  rw [running_of_le lt running] at halted
  cases halted

theorem arrives_after {p i : Nat} :
    (machine.after p).Arrives addresses i ↔ machine.Arrives addresses (p + i) := by
  rw [Arrives, after_add, after_add]
  rfl

theorem breaksAt_iff_arrives (same : ∀ address, address ∈ addresses ↔ address ∈ breakpoints)
    (running : (machine.after k).step.1 = .ok .running) :
    machine.BreaksAt breakpoints k ↔
      machine.Arrives addresses k ∧ ∀ i < k, ¬ machine.Arrives addresses i := by
  constructor
  · intro h
    refine ⟨⟨running, (same _).2 (h.breaks running)⟩, fun i early arrives => ?_⟩
    exact (h.passes i early).2 ((same _).1 arrives.2)
  · rintro ⟨arrives, first⟩
    refine ⟨fun i early => ?_, fun _ => (same _).1 arrives.2⟩
    have before := running_of_lt (running_of_step running) early
    exact ⟨before, fun on => first i early ⟨before, (same _).2 on⟩⟩

theorem count_arrives_add [DecidablePred (machine.Arrives addresses)] {p : Nat}
    (first : ∀ i < k, ¬ (machine.after p).Arrives addresses i) :
    Nat.count (machine.Arrives addresses) (p + k) = Nat.count (machine.Arrives addresses) p := by
  have none : Nat.count (fun i => machine.Arrives addresses (p + i)) k = 0 :=
    Nat.count_iff_forall_not.2 fun i lt arrives => first i lt (arrives_after.2 arrives)
  rw [Nat.count_add, none, Nat.add_zero]

end Machine

namespace Debugger

section Runs

variable {debugger : Debugger} {k fuel : Nat}

theorem runToBreak_of_breaksAt (h : debugger.machine.BreaksAt debugger.breakpoints k)
    (lt : k < fuel) :
    (debugger.runToBreak fuel).1 = some (debugger.machine.after k).lastReply ∧
      (debugger.runToBreak fuel).2.machine = debugger.machine.after (k + 1) := by
  induction fuel generalizing debugger k with
  | zero => cases lt
  | succ fuel ih =>
    cases k with
    | zero =>
      rw [runToBreak_breaking h]
      exact ⟨rfl, debugger.session.machine_step⟩
    | succ k =>
      obtain ⟨first, off, rest⟩ := Machine.breaksAt_succ_iff.1 h
      have after := debugger.session.machine_step
      rw [runToBreak_passing (debugger.session.result_step.trans first) (after ▸ off)]
      have next : ({ debugger with session := debugger.session.step.2 } : Debugger).machine =
        debugger.machine.step.2 := after
      obtain ⟨reply, machine⟩ := @ih { debugger with session := debugger.session.step.2 } k
        (next ▸ rest) (Nat.lt_of_succ_lt_succ lt)
      rw [next, Machine.after_step] at reply machine
      exact ⟨reply, machine⟩

theorem breakpoints_runToBreak (fuel : Nat) (debugger : Debugger) :
    (debugger.runToBreak fuel).2.breakpoints = debugger.breakpoints := by
  induction fuel generalizing debugger with
  | zero => rfl
  | succ fuel ih =>
    rw [runToBreak]
    split
    · rfl
    · rfl
    · split
      · rfl
      · exact ih _

theorem resume_of_breaksAt (running : debugger.machine.halted = false)
    (h : debugger.machine.BreaksAt debugger.breakpoints k) (lt : k < fuel) :
    (debugger.resume fuel).1 = some (debugger.machine.after k).lastReply ∧
      (debugger.resume fuel).2.machine = debugger.machine.after (k + 1) := by
  obtain ⟨told, machine, breakpoints, resumed⟩ := exists_resume_eq running fuel
  rw [← machine, ← breakpoints] at h
  rw [resumed, ← machine]
  exact runToBreak_of_breaksAt h lt

theorem breakpoints_resume (fuel : Nat) (debugger : Debugger) :
    (debugger.resume fuel).2.breakpoints = debugger.breakpoints := by
  unfold resume
  split
  · rfl
  · exact breakpoints_runToBreak fuel _

theorem breakpoints_step (debugger : Debugger) (count : Nat) :
    (debugger.step count).2.breakpoints = debugger.breakpoints := by
  unfold step
  split <;> rfl

end Runs

section Edits

/-- Set by one of the lines, and not cleared by any after it. -/
def StillSet (lines : List String) (address : UInt64) : Prop :=
  ∃ before line after, lines = before ++ line :: after ∧ Names .setBreak line address ∧
    ∀ later ∈ after, ¬ Names .clearBreak later address

variable {lines : List String} {line : String} {address : UInt64}

theorem not_stillSet_nil : ¬ StillSet [] address := by
  rintro ⟨before, line, after, cut, _⟩
  exact List.append_ne_nil_of_right_ne_nil before (List.cons_ne_nil line after) cut.symm

theorem stillSet_append : StillSet (lines ++ [line]) address ↔
    Names .setBreak line address ∨ StillSet lines address ∧ ¬ Names .clearBreak line address := by
  constructor
  · rintro ⟨before, setting, after, cut, set, kept⟩
    rcases List.eq_nil_or_concat after with rfl | ⟨after, last, rfl⟩
    · obtain ⟨rfl, same⟩ := List.append_inj' cut rfl
      obtain rfl := List.singleton_inj.1 same
      exact .inl set
    · rw [List.concat_eq_append] at cut kept
      rw [← List.cons_append, ← List.append_assoc] at cut
      obtain ⟨rfl, same⟩ := List.append_inj' cut rfl
      obtain rfl := List.singleton_inj.1 same
      refine .inr ⟨⟨before, setting, after, rfl, set, fun later mem => ?_⟩, ?_⟩
      · exact kept later (List.mem_append_left _ mem)
      · exact kept line (List.mem_append_right _ (List.mem_singleton.2 rfl))
  · rintro (set | ⟨⟨before, setting, after, rfl, set, kept⟩, uncleared⟩)
    · exact ⟨lines, line, [], rfl, set, nofun⟩
    · refine ⟨before, setting, after ++ [line], ?_, set, fun later mem => ?_⟩
      · rw [List.append_assoc, List.cons_append]
      · rcases List.mem_append.1 mem with earlier | last
        · exact kept later earlier
        · exact List.mem_singleton.1 last ▸ uncleared

theorem editBreak_eq (debugger : Debugger) (arguments : List String)
    (edit : UInt64 → Reply × Debugger) : debugger.editBreak arguments edit =
      match arguments.head?.map readNumber with
      | none => (.noAddress, debugger)
      | some (.error error) => (.badAddress error, debugger)
      | some (.ok address) => edit address := by
  cases arguments with
  | nil => rfl
  | cons text arguments =>
    rw [editBreak, List.head?_cons, Option.map_some]
    cases readNumber text <;> rfl

theorem breakpoints_execute_other (fuel : Nat) (debugger : Debugger) {command : Command}
    (set : command.verb ≠ .setBreak) (clear : command.verb ≠ .clearBreak) :
    (debugger.execute fuel command).2.breakpoints = debugger.breakpoints := by
  unfold execute
  cases verb : command.verb with
  | setBreak => exact absurd verb set
  | clearBreak => exact absurd verb clear
  | step =>
    dsimp only
    split
    · rfl
    · exact breakpoints_step debugger _
  | resume => exact breakpoints_resume fuel debugger
  | registers | dump | trace | help | quit => rfl

def Command.address? (command : Command) : Option (Except NumeralError UInt64) :=
  command.arguments.head?.map readNumber

theorem mem_breakpoints_execute (fuel : Nat) (debugger : Debugger) (command : Command)
    (address : UInt64) : address ∈ (debugger.execute fuel command).2.breakpoints ↔
      (command.verb = .setBreak ∧ command.address? = some (.ok address)) ∨
        address ∈ debugger.breakpoints ∧
          ¬ (command.verb = .clearBreak ∧ command.address? = some (.ok address)) := by
  by_cases set : command.verb = .setBreak
  · simp only [execute, set, editBreak_eq, Command.address?, reduceCtorEq, true_and, false_and,
      not_false_eq_true, and_true]
    rcases command.arguments.head?.map readNumber with _ | _ | named
    · simp only [reduceCtorEq, false_or]
    · simp only [Option.some_inj, reduceCtorEq, false_or]
    · simp only [setBreak, List.mem_insert_iff, Option.some_inj, Except.ok.injEq, eq_comm]
  · by_cases clear : command.verb = .clearBreak
    · simp only [execute, clear, editBreak_eq, Command.address?, reduceCtorEq, true_and,
        false_and, false_or]
      rcases command.arguments.head?.map readNumber with _ | _ | named
      · simp only [reduceCtorEq, not_false_eq_true, and_true]
      · simp only [Option.some_inj, reduceCtorEq, not_false_eq_true, and_true]
      · simp only [Option.some_inj, Except.ok.injEq]
        split
        · simp only [clearBreak, List.mem_filter, bne_iff_ne, ne_eq, eq_comm (a := address)]
        · rename_i absent
          rw [List.contains_iff_mem] at absent
          exact ⟨fun mem => ⟨mem, fun same => absent (same ▸ mem)⟩, And.left⟩
    · rw [breakpoints_execute_other fuel debugger set clear]
      simp only [set, clear, false_and, not_false_eq_true, and_true, false_or]

theorem mem_breakpoints_obey (fuel : Nat) (debugger : Debugger) (line : String)
    (address : UInt64) : address ∈ (debugger.obey fuel line).breakpoints ↔
      Names .setBreak line address ∨
        address ∈ debugger.breakpoints ∧ ¬ Names .clearBreak line address := by
  rw [names_iff, names_iff]
  unfold obey
  cases interpret line with
  | error error => simp only [reduceCtorEq, false_and, exists_false, not_false_eq_true, and_true,
      false_or]
  | ok command =>
    simp only [Except.ok.injEq, exists_eq_left']
    exact mem_breakpoints_execute fuel debugger command address

theorem mem_breakpoints_obeyAll {start : Debugger} (none : start.breakpoints = []) (fuel : Nat)
    (lines : List String) (address : UInt64) :
    address ∈ (start.obeyAll fuel lines).breakpoints ↔ StillSet lines address := by
  induction lines using List.reverseRecOn with
  | nil =>
    refine iff_of_false ?_ not_stillSet_nil
    rw [obeyAll, List.foldl_nil, none]
    exact List.not_mem_nil
  | append_singleton lines line ih =>
    rw [obeyAll, List.foldl_append, List.foldl_cons, List.foldl_nil, mem_breakpoints_obey,
      stillSet_append, ← ih]
    rfl

instance (lines : List String) : DecidablePred (StillSet lines) := fun address =>
  decidable_of_iff (address ∈ (({} : Debugger).obeyAll 0 lines).breakpoints)
    (mem_breakpoints_obeyAll rfl 0 lines address)

end Edits

section Resumed

def resumed (debugger : Debugger) (fuel : Nat) : Nat → Debugger
  | 0 => debugger
  | m + 1 => ((debugger.resumed fuel m).resume fuel).2

def resumedAnswer (debugger : Debugger) (fuel m : Nat) : Option (Except Fault Reply) :=
  ((debugger.resumed fuel m).resume fuel).1

variable {debugger : Debugger} {addresses : Set UInt64} {fuel : Nat}

theorem breakpoints_resumed (debugger : Debugger) (fuel m : Nat) :
    (debugger.resumed fuel m).breakpoints = debugger.breakpoints := by
  induction m with
  | zero => rfl
  | succ m ih => rw [resumed, breakpoints_resume, ih]

theorem resumed_of_arrives {p k m : Nat}
    (same : ∀ address, address ∈ addresses ↔ address ∈ debugger.breakpoints)
    (stands : (debugger.resumed fuel m).machine = debugger.machine.after p)
    (first : ∀ i < k, ¬ (debugger.machine.after p).Arrives addresses i)
    (arrives : debugger.machine.Arrives addresses (p + k)) (lt : k < fuel) :
    debugger.resumedAnswer fuel m =
        some (.ok (.atBreakpoint (debugger.machine.after (p + k + 1)))) ∧
      (debugger.resumed fuel (m + 1)).machine = debugger.machine.after (p + k + 1) := by
  have running := Machine.running_of_le (Nat.le_add_right p k) (Machine.running_of_step arrives.1)
  have breaks :
      (debugger.resumed fuel m).machine.BreaksAt (debugger.resumed fuel m).breakpoints k := by
    rw [stands, breakpoints_resumed, Machine.breaksAt_iff_arrives same]
    · exact ⟨Machine.arrives_after.2 arrives, first⟩
    · rw [Machine.after_add]
      exact arrives.1
  obtain ⟨answer, machine⟩ := resume_of_breaksAt (stands ▸ running) breaks lt
  rw [stands, Machine.after_add] at answer machine
  exact ⟨answer.trans (congrArg some (Machine.lastReply_of_running arrives.1)), machine⟩

variable [DecidablePred (· ∈ addresses)]

/-- As many runs as there were addresses to stop at end at the last one of them. -/
theorem exists_resumed_eq {n : Nat}
    (same : ∀ address, address ∈ addresses ↔ address ∈ debugger.breakpoints)
    (running : (debugger.machine.after n).halted = false) (le : n ≤ fuel) :
    ∃ p k, p + k = n ∧ (∀ i < k, ¬ (debugger.machine.after p).Arrives addresses i) ∧
      (debugger.resumed fuel (Nat.count (debugger.machine.Arrives addresses) n)).machine =
        debugger.machine.after p := by
  induction n with
  | zero => exact ⟨0, 0, rfl, nofun, rfl⟩
  | succ n ih =>
    have before := Machine.running_of_le (Nat.le_succ n) running
    obtain ⟨p, k, rfl, first, stands⟩ := ih before (Nat.le_of_succ_le le)
    rw [Nat.count_succ]
    by_cases arrives : debugger.machine.Arrives addresses (p + k)
    · rw [if_pos arrives]
      have lt : k < fuel := Nat.lt_of_le_of_lt (Nat.le_add_left k p) le
      exact ⟨p + k + 1, 0, rfl, nofun, (resumed_of_arrives same stands first arrives lt).2⟩
    · rw [if_neg arrives]
      refine ⟨p, k + 1, rfl, fun i lt => ?_, stands⟩
      rcases Nat.lt_succ_iff_lt_or_eq.1 lt with earlier | rfl
      · exact first i earlier
      · rwa [Machine.arrives_after]

theorem exists_of_reached {pc : UInt64} {line : String}
    (reached : (debugger.resume fuel).1 = some (.ok (.reached pc line))) :
    ∃ k, debugger.machine.BreaksAt debugger.breakpoints k ∧
      (debugger.machine.after k).step.1 = .ok .running ∧
      (debugger.resume fuel).1 = some (.ok (.atBreakpoint (debugger.machine.after (k + 1)))) ∧
      (debugger.resume fuel).2.machine = debugger.machine.after (k + 1) := by
  rcases resume_cases fuel debugger with
    ⟨-, stays⟩ | ⟨-, ⟨silent, -⟩ | ⟨k, -, breaks, last, after⟩⟩
  · rw [stays] at reached
    cases reached
  · rw [silent] at reached
    cases reached
  · rw [last, Option.some_inj] at reached
    rcases Machine.lastReply_cases reached with ⟨-, other⟩ | ⟨running, -⟩
    · cases other
    · rw [Machine.lastReply_of_running running] at last
      exact ⟨k, breaks, running, last, after⟩

theorem exists_arrives_of_answer {p m : Nat} {pc : UInt64} {line : String}
    (same : ∀ address, address ∈ addresses ↔ address ∈ debugger.breakpoints)
    (stands : (debugger.resumed fuel m).machine = debugger.machine.after p)
    (counted : Nat.count (debugger.machine.Arrives addresses) p = m)
    (reached : debugger.resumedAnswer fuel m = some (.ok (.reached pc line))) :
    ∃ i, debugger.machine.Arrives addresses i ∧
      Nat.count (debugger.machine.Arrives addresses) i = m ∧
      debugger.resumedAnswer fuel m =
        some (.ok (.atBreakpoint (debugger.machine.after (i + 1)))) ∧
      (debugger.resumed fuel (m + 1)).machine = debugger.machine.after (i + 1) := by
  obtain ⟨k, breaks, running, answer, machine⟩ := exists_of_reached reached
  rw [stands] at breaks running answer machine
  rw [breakpoints_resumed] at breaks
  obtain ⟨arrives, first⟩ := (Machine.breaksAt_iff_arrives same running).1 breaks
  rw [Machine.after_add] at answer machine
  refine ⟨p + k, Machine.arrives_after.1 arrives, ?_, answer, machine⟩
  rw [Machine.count_arrives_add first, counted]

theorem exists_resumed_of_answers {m : Nat}
    (same : ∀ address, address ∈ addresses ↔ address ∈ debugger.breakpoints)
    (reached : ∀ j < m, ∃ pc line,
      debugger.resumedAnswer fuel j = some (.ok (.reached pc line))) :
    ∃ p, Nat.count (debugger.machine.Arrives addresses) p = m ∧
      (debugger.resumed fuel m).machine = debugger.machine.after p := by
  induction m with
  | zero => exact ⟨0, Nat.count_zero _, rfl⟩
  | succ m ih =>
    obtain ⟨p, counted, stands⟩ := ih fun j lt => reached j (Nat.lt_succ_of_lt lt)
    obtain ⟨pc, line, last⟩ := reached m (Nat.lt_succ_self m)
    obtain ⟨i, arrives, before, -, machine⟩ := exists_arrives_of_answer same stands counted last
    refine ⟨i + 1, ?_, machine⟩
    rw [Nat.count_succ, if_pos arrives, before]

end Resumed

section Replies

def Prints (fuel : Nat) (debugger : Debugger) (line text : String) : Prop :=
  ∃ reply : Reply, debugger.answer fuel line = .ok (some (.ok reply)) ∧ reply.text? = some text

def Reports (fuel : Nat) (debugger : Debugger) (line : String) (machine : Machine) : Prop :=
  ∃ shown, Text.IsHexLiteral 2 shown machine.pc.toNat ∧
    Prints fuel debugger line ("breakpoint at " ++ shown ++ "\n" ++ machine.traceLine)

variable {fuel : Nat} {debugger : Debugger} {line : String} {machine : Machine} {reply : Reply}

theorem prints_iff {text : String}
    (answered : debugger.answer fuel line = .ok (some (.ok reply))) :
    Prints fuel debugger line text ↔ reply.text? = some text := by
  constructor
  · rintro ⟨other, answered', said⟩
    cases answered.symm.trans answered'
    exact said
  · exact fun said => ⟨reply, answered, said⟩

theorem reports_of_answer
    (answered : debugger.answer fuel line = .ok (some (.ok (.atBreakpoint machine)))) :
    Reports fuel debugger line machine :=
  ⟨_, Text.isHexLiteral_hexPairLiteral _, _, answered, rfl⟩

theorem obey_of_asks (asks : Asks line .runToBreak) (fuel : Nat) (debugger : Debugger) :
    debugger.obey fuel line = (debugger.resume fuel).2 := by
  obtain ⟨command, interpreted, resumes⟩ := asks.interpreted
  simp only [obey, interpreted, execute, resumes]

theorem answer_of_asks (asks : Asks line .runToBreak) (fuel : Nat) (debugger : Debugger) :
    debugger.answer fuel line = .ok (debugger.resume fuel).1 := by
  obtain ⟨command, interpreted, resumes⟩ := asks.interpreted
  simp only [answer, interpreted, execute, resumes, Except.map]

theorem obeyAll_of_asks {asked : Nat → String} (asks : ∀ j, Asks (asked j) .runToBreak)
    (fuel : Nat) (debugger : Debugger) (m : Nat) :
    debugger.obeyAll fuel ((List.range m).map asked) = debugger.resumed fuel m := by
  induction m with
  | zero => rfl
  | succ m ih =>
    rw [List.range_succ, List.map_append, obeyAll, List.foldl_append]
    exact (congrArg (obey fuel · (asked m)) ih).trans (obey_of_asks (asks m) fuel _)

theorem halted_or_reached (answered : (debugger.resume fuel).1 = some (.ok reply)) :
    reply = .halted ∨ ∃ pc traceLine, reply = .reached pc traceLine := by
  rcases resume_cases fuel debugger with
    ⟨-, stays⟩ | ⟨-, ⟨silent, -⟩ | ⟨k, -, -, last, -⟩⟩
  · rw [stays] at answered
    cases answered
    exact .inl rfl
  · rw [silent] at answered
    cases answered
  · rw [last, Option.some_inj] at answered
    rcases Machine.lastReply_cases answered with ⟨-, rfl⟩ | ⟨-, rfl⟩
    · exact .inl rfl
    · exact .inr ⟨_, _, rfl⟩

theorem exists_reached_of_prints {text : String} (asks : Asks line .runToBreak)
    (prints : Prints fuel debugger line ("breakpoint at " ++ text)) :
    ∃ pc traceLine, (debugger.resume fuel).1 = some (.ok (.reached pc traceLine)) := by
  obtain ⟨reply, answered, said⟩ := prints
  rw [answer_of_asks asks, Except.ok.injEq] at answered
  rcases halted_or_reached answered with rfl | ⟨pc, traceLine, rfl⟩
  · have first := congrArg (fun text => text.toList.head?) (Option.some.inj said)
    rw [String.toList_append, List.head?_append_of_ne_nil _ (by decide)] at first
    exact absurd first (by decide)
  · exact ⟨pc, traceLine, answered⟩

theorem prints_of_halted (asks : Asks line .runToBreak) (halted : debugger.machine.halted)
    (fuel : Nat) : (debugger.obey fuel line).machine = debugger.machine ∧
      Prints fuel debugger line "machine halted" := by
  have stays : debugger.resume fuel = (some (.ok .halted), debugger) := if_pos halted
  have answered := answer_of_asks asks fuel debugger
  rw [stays] at answered
  rw [obey_of_asks asks, stays]
  exact ⟨rfl, .halted, answered, rfl⟩

theorem answer_of_breaksAt {k : Nat} (asks : Asks line .runToBreak)
    (running : debugger.machine.halted = false)
    (breaks : debugger.machine.BreaksAt debugger.breakpoints k) (lt : k < fuel) :
    debugger.answer fuel line = .ok (some (debugger.machine.after k).lastReply) ∧
      (debugger.obey fuel line).machine = debugger.machine.after (k + 1) := by
  obtain ⟨last, after⟩ := resume_of_breaksAt running breaks lt
  rw [answer_of_asks asks, obey_of_asks asks, last]
  exact ⟨rfl, after⟩

theorem reports_of_arrives {addresses : Set UInt64} [DecidablePred (· ∈ addresses)]
    {asked : Nat → String} (asks : ∀ j, Asks (asked j) .runToBreak)
    (same : ∀ address, address ∈ addresses ↔ address ∈ debugger.breakpoints) {i : Nat}
    (arrives : debugger.machine.Arrives addresses i) (lt : i < fuel) :
    let earlier := Nat.count (debugger.machine.Arrives addresses) i
    Reports fuel (debugger.resumed fuel earlier) (asked earlier)
        (debugger.machine.after (i + 1)) ∧
      (debugger.resumed fuel (earlier + 1)).machine = debugger.machine.after (i + 1) := by
  intro earlier
  have running : (debugger.machine.after i).halted = false := Machine.running_of_step arrives.1
  obtain ⟨p, k, rfl, first, stands⟩ := exists_resumed_eq same running (Nat.le_of_lt lt)
  obtain ⟨last, machine⟩ := resumed_of_arrives same stands first arrives
    (Nat.lt_of_le_of_lt (Nat.le_add_left k p) lt)
  refine ⟨reports_of_answer ?_, machine⟩
  rw [answer_of_asks (asks earlier)]
  exact congrArg Except.ok last

theorem exists_arrives_of_prints {addresses : Set UInt64} [DecidablePred (· ∈ addresses)]
    {asked : Nat → String} (asks : ∀ j, Asks (asked j) .runToBreak)
    (same : ∀ address, address ∈ addresses ↔ address ∈ debugger.breakpoints) {m : Nat}
    (printed : ∀ j ≤ m, ∃ text,
      Prints fuel (debugger.resumed fuel j) (asked j) ("breakpoint at " ++ text)) :
    ∃ i, debugger.machine.Arrives addresses i ∧
      Nat.count (debugger.machine.Arrives addresses) i = m ∧
      Reports fuel (debugger.resumed fuel m) (asked m) (debugger.machine.after (i + 1)) ∧
      (debugger.resumed fuel (m + 1)).machine = debugger.machine.after (i + 1) := by
  have reached (j : Nat) (le : j ≤ m) : ∃ pc line,
      debugger.resumedAnswer fuel j = some (.ok (.reached pc line)) := by
    obtain ⟨text, prints⟩ := printed j le
    exact exists_reached_of_prints (asks j) prints
  obtain ⟨p, counted, stands⟩ :=
    exists_resumed_of_answers same fun j lt => reached j (Nat.le_of_lt lt)
  obtain ⟨pc, line, last⟩ := reached m (Nat.le_refl m)
  obtain ⟨i, arrives, before, answer, machine⟩ :=
    exists_arrives_of_answer same stands counted last
  refine ⟨i, arrives, before, reports_of_answer ?_, machine⟩
  rw [answer_of_asks (asks m)]
  exact congrArg Except.ok answer

theorem answer_of_clears {address : UInt64} (clears : Names .clearBreak line address)
    (fuel : Nat) (debugger : Debugger) : debugger.answer fuel line = .ok (some (.ok
      (if address ∈ debugger.breakpoints then .breakpointRemoved address
        else .noBreakpoint address))) := by
  obtain ⟨command, interpreted, verb, named⟩ := names_iff.1 clears
  simp only [answer, interpreted, Except.map, execute, verb, editBreak_eq, named,
    List.contains_iff_mem]
  split <;> rfl

theorem prints_of_clears {address : UInt64} (clears : Names .clearBreak line address)
    (fuel : Nat) (debugger : Debugger) : ∃ shown, Text.IsHexLiteral 2 shown address.toNat ∧
      (Prints fuel debugger line ("breakpoint removed at " ++ shown) ↔
        address ∈ debugger.breakpoints) ∧
      (Prints fuel debugger line ("no breakpoint at " ++ shown) ↔
        address ∉ debugger.breakpoints) := by
  have answered := answer_of_clears clears fuel debugger
  have apart : "breakpoint removed at " ≠ "no breakpoint at " := by decide
  refine ⟨_, Text.isHexLiteral_hexPairLiteral address.toNat, ?_⟩
  rw [prints_iff answered, prints_iff answered]
  by_cases mem : address ∈ debugger.breakpoints
  · simp only [mem, if_true, Reply.text?, Option.some_inj, String.append_left_inj, apart,
      not_true_eq_false, and_self]
  · simp only [mem, if_false, Reply.text?, Option.some_inj, String.append_left_inj, apart.symm,
      not_false_eq_true, and_self]

end Replies

theorem continue_stops_at_breakpoints (start : Debugger) (unset : start.breakpoints = [])
    (history : Nat) (lines : List String) (session : Session) :
    let debugger : Debugger :=
      { session, breakpoints := (start.obeyAll history lines).breakpoints }
    let machine := session.machine
    let B : Set UInt64 := {address | StillSet lines address}
    (∀ fuel line, Asks line .runToBreak → machine.halted →
      (debugger.obey fuel line).machine = machine ∧ Prints fuel debugger line "machine halted") ∧
    (machine.halted = false → ∀ k, IsLeast {i | machine.Pauses B i} k →
      ∀ fuel line, k < fuel → Asks line .runToBreak →
      (debugger.obey fuel line).machine = machine.after (k + 1) ∧
      (∀ address, address ∈ (debugger.obey fuel line).breakpoints ↔ address ∈ B) ∧
      ((machine.after k).step.1 = .ok .halted → Prints fuel debugger line "machine halted") ∧
      (∀ fault, (machine.after k).step.1 = .error fault →
        debugger.answer fuel line = .ok (some (.error fault))) ∧
      ((machine.after k).step.1 = .ok .running → (machine.after (k + 1)).pc ∈ B ∧
        Reports fuel debugger line (machine.after (k + 1)))) ∧
    (∀ asked : Nat → String, (∀ j, Asks (asked j) .runToBreak) → ∀ fuel,
      let resumed (m : Nat) := debugger.obeyAll fuel ((List.range m).map asked)
      (∀ i, machine.Arrives B i → i < fuel →
        let earlier := Nat.count (machine.Arrives B) i
        Reports fuel (resumed earlier) (asked earlier) (machine.after (i + 1)) ∧
        (resumed (earlier + 1)).machine = machine.after (i + 1)) ∧
      ∀ m, (∀ j ≤ m, ∃ text, Prints fuel (resumed j) (asked j) ("breakpoint at " ++ text)) →
        ∃ i, machine.Arrives B i ∧ Nat.count (machine.Arrives B) i = m ∧
          Reports fuel (resumed m) (asked m) (machine.after (i + 1)) ∧
          (resumed (m + 1)).machine = machine.after (i + 1)) ∧
    ∀ fuel line address, Names .clearBreak line address →
      ∃ shown, Text.IsHexLiteral 2 shown address.toNat ∧
        (Prints fuel debugger line ("breakpoint removed at " ++ shown) ↔ address ∈ B) ∧
        (Prints fuel debugger line ("no breakpoint at " ++ shown) ↔ address ∉ B) := by
  intro debugger machine B
  have same : ∀ address, address ∈ B ↔ address ∈ debugger.breakpoints := fun address =>
    (mem_breakpoints_obeyAll unset history lines address).symm
  refine ⟨fun fuel line asks halted => ?_, fun running k least fuel line lt asks => ?_,
    fun asked asks fuel => ?_, fun fuel line address clears => ?_⟩
  · have halted : debugger.machine.halted := halted
    exact prints_of_halted asks halted fuel
  · have breaks := (Machine.breaksAt_iff_isLeast same).2 least
    have running : debugger.machine.halted = false := running
    obtain ⟨answered, after⟩ := answer_of_breaksAt asks running breaks lt
    refine ⟨after, fun address => ?_, fun halts => ?_, fun fault faults => ?_,
      fun runs => ⟨(same _).2 (breaks.breaks runs), ?_⟩⟩
    · rw [obey_of_asks asks, breakpoints_resume, same]
    · have last := Machine.lastReply_of_halting halts
      exact ⟨.halted, answered.trans (congrArg (Except.ok ∘ some) last), rfl⟩
    · have last := Machine.lastReply_eq_error.2 faults
      exact answered.trans (congrArg (Except.ok ∘ some) last)
    · have last := Machine.lastReply_of_running runs
      exact reports_of_answer (answered.trans (congrArg (Except.ok ∘ some) last))
  · simp only [obeyAll_of_asks asks fuel debugger]
    exact ⟨fun i arrives lt => reports_of_arrives asks same arrives lt,
      fun m printed => exists_arrives_of_prints asks same printed⟩
  · obtain ⟨shown, literal, removed, absent⟩ := prints_of_clears clears fuel debugger
    exact ⟨shown, literal, removed.trans (same _).symm, absent.trans (not_congr (same _).symm)⟩

/-- A loop back to where it starts, with a breakpoint there and another one on the way that was
cleared again. -/
theorem continue_stops_at_breakpoints_loop :
    let machine := Machine.loaded {} [0x65, 0, 0, 0x54, 1]
    let lines := ["b 0x3", "break 0", "walk", "delete 0b11"]
    let debugger : Debugger :=
      { session := { machine }, breakpoints := (({} : Debugger).obeyAll 10 lines).breakpoints }
    let B : Set UInt64 := {address | StillSet lines address}
    IsLeast {i | machine.Pauses B i} 1 ∧ (debugger.obey 10 "C 0x9").machine = machine.after 2 ∧
      Reports 10 debugger "C 0x9" (machine.after 2) ∧ machine.Arrives B 3 ∧
      Reports 10 (debugger.obeyAll 10 ["C 0x9"]) "\tcontinue" (machine.after 4) ∧
      Names .clearBreak "DELETE 0B11" 3 ∧ ∃ shown, Text.IsHexLiteral 2 shown 3 ∧
        Prints 10 debugger "DELETE 0B11" ("no breakpoint at " ++ shown) := by
  intro machine lines debugger B
  let asked (j : Nat) := if j = 0 then "C 0x9" else "\tcontinue"
  have least : IsLeast {i | machine.Pauses B i} 1 := by
    refine ⟨.inr (by decide +kernel), fun i pauses => Nat.le_of_not_lt fun early => ?_⟩
    obtain rfl := Nat.lt_one_iff.1 early
    exact Machine.not_pauses.2 ⟨by decide +kernel, by decide +kernel⟩ pauses
  have arrives : machine.Arrives B 3 := ⟨by decide +kernel, by decide +kernel⟩
  have clears : Names .clearBreak "DELETE 0B11" 3 :=
    names_iff.2 ⟨⟨.clearBreak, ["0B11"]⟩, by decide +kernel, rfl, by decide +kernel⟩
  have asks (j : Nat) : Asks (asked j) .runToBreak := by
    unfold asked
    split <;> exact asks_iff.2 (by decide +kernel)
  obtain ⟨_, pauses, visits, deletes⟩ :=
    continue_stops_at_breakpoints {} rfl 10 lines { machine }
  have second : Nat.count (machine.Arrives B) 3 = 1 := by decide +kernel
  obtain ⟨machine', _, _, _, reports⟩ := pauses rfl 1 least 10 "C 0x9" (by decide) (asks 0)
  obtain ⟨again, _⟩ := (visits asked asks 10).1 3 arrives (by decide)
  rw [second] at again
  obtain ⟨shown, literal, _, absent⟩ := deletes 10 "DELETE 0B11" 3 clears
  exact ⟨least, machine', (reports (by decide +kernel)).2, arrives, again, clears, shown, literal,
    absent.2 (by decide +kernel)⟩

end Debugger
end ByteMachine
