import ByteMachine.Proofs.CommandLine.Dashes
import ByteMachine.Proofs.CommandLine.Start
import ByteMachine.Proofs.State.Description
import ByteMachine.Proofs.Trace.Readings
import ByteMachine.Proofs.Trace.TracedLines

/-! The exit code of a command that runs a program, and what it leaves on standard error. -/

namespace ByteMachine

namespace Machine

variable {machine : Machine}

theorem flush_after (fresh : machine.console = {}) (n : Nat) :
    (machine.after n).console.flush = .ok () := by
  have reliable : machine.console.Reliable := by
    rw [fresh]
    exact fun _ _ => rfl
  have device : (machine.after n).console.device = machine.console.device := by
    induction n with
    | zero => rfl
    | succ n ih =>
      obtain ⟨printed, console, -⟩ := exists_printed (reliable_after reliable n)
      rw [after, console]
      exact ih
  rw [Console.flush, device, fresh]
  rfl

end Machine

namespace CommandLine

/-- A command that is about a program, and neither asks for help nor for the debugger. -/
structure Asks (options : OptionParser) (arguments : List String) (read : Arguments)
    (path : String) : Prop where
  valid : options.parse arguments = .ok read
  unhelped : read.has .help = false
  undebugged : read.has .debug = false
  named : read.free.head? = some path

def Arguments.task (read : Arguments) (path stamp : String) : Task :=
  { program := path, compare := read.value? .compare, debug := false,
    reporting := { verbose := read.has .verbose, trace := read.has .trace, stamp } }

variable {host : Host} {path : String} {arguments : List String} {read : Arguments} {fuel : Nat}

theorem Asks.run_eq (asks : Asks host.options arguments read path) (fuel : Nat) :
    run fuel host arguments = perform fuel host (read.task path host.stamp) := by
  obtain ⟨valid, unhelped, undebugged, named⟩ := asks
  obtain ⟨others, free⟩ := List.head?_eq_some_iff.1 named
  rw [run, Plan.ofArguments, valid]
  simp only [Plan.ofRead, unhelped, free, undebugged, Bool.false_eq_true, if_false,
    Arguments.task]

section

variable {switch other : Switch}

theorem Arguments.has_cons (other : Switch) : ({ read with
    given := { switch } :: read.given } : Arguments).has other =
      (decide (switch = other) || read.has other) :=
  rfl

theorem Arguments.value?_cons (other : Switch) : ({ read with
    given := { switch } :: read.given } : Arguments).value? other = read.value? other := by
  rw [value?, List.findSome?_cons]
  split
  · rename_i found
    split at found <;> cases found
  · rfl

theorem Asks.flag (asks : Asks host.options arguments read path)
    (documented : host.options.Documented) (plain : switch.takesValue = false)
    (absent : read.has switch = false) (unhelpful : switch ≠ .help) (direct : switch ≠ .debug) :
    Asks host.options (switch.flag :: arguments)
      { read with given := { switch } :: read.given } path where
  valid := documented.flag switch plain arguments read asks.valid absent
  unhelped := by
    rw [Arguments.has_cons, decide_eq_false unhelpful, asks.unhelped, Bool.or_self]
  undebugged := by
    rw [Arguments.has_cons, decide_eq_false direct, asks.undebugged, Bool.or_self]
  named := asks.named

end

variable {files : String → FileAccess}

theorem perform_of_fault {task : Task} {code : UInt8}
    (start : Start host.files task.program task.compare (.error code)) :
    ∃ outcome, perform fuel host task = some outcome ∧ outcome.exitCode = code ∧
      ∃ fault : Fault, fault.exitCode = code ∧
        outcome.errors = Session.complaint fault.message := by
  obtain ⟨fault, session, failed, exits, errors⟩ := start.exists_fault
  refine ⟨giveUp session fault, ?_, exits, fault, exits, ?_⟩
  · rw [perform, failed]
  · simp only [giveUp, Session.complain, Session.printError, errors, String.empty_append]

def lastWords (machine : Machine) : Except Fault Status → String
  | .ok _ => ""
  | .error fault =>
    (if fault.exitCode = 101 then machine.core.processor.describe ++ "\n" else "") ++
      Session.complaint fault.message

def exitCode {α : Type} : Except Fault α → UInt8
  | .ok _ => 0
  | .error fault => fault.exitCode

theorem exitCode_map {α β : Type} (f : α → β) (result : Except Fault α) :
    exitCode (result.map f) = exitCode result := by
  cases result <;> rfl

theorem conclude_eq {session : Session} (flushes : session.machine.console.flush = .ok ())
    (result : Except Fault Status) :
    (conclude session (result.map fun _ => ())).exitCode = exitCode result ∧
      (conclude session (result.map fun _ => ())).errors =
        session.errors ++ lastWords session.machine result := by
  cases result with
  | ok status =>
    simp only [conclude, Except.map, Machine.finish, flushes, exitCode, lastWords,
      String.append_empty, and_self]
  | error fault =>
    simp only [conclude, Except.map, Machine.finish, Fault.isRuntime, beq_iff_eq, exitCode,
      lastWords]
    split
    · exact ⟨rfl, String.append_assoc ..⟩
    · rw [String.empty_append]
      exact ⟨rfl, rfl⟩

theorem runSession_eq {session : Session} {k : Nat} (fresh : session.machine.console = {})
    (stops : session.machine.StopsAt k) (lt : k < fuel) :
    ∃ last : Session, runSession fuel session =
        (some ((session.machine.after k).step.1.map fun _ => ()), last) ∧
      last.machine = session.machine.after (k + 1) ∧
      last.errors = session.errors ++
        Session.shown (session.visible (session.machine.tracedLines fuel)) := by
  have same := session.advance_machine fuel
  have errors := session.errors_advance fuel
  have flushes := Machine.flush_after fresh (k + 1)
  rw [stops.advance_eq lt] at same
  obtain ⟨result, machine⟩ := Prod.mk.inj same
  refine ⟨(session.advance fuel).2, ?_, machine, errors⟩
  rw [← machine] at flushes
  rw [← result]
  unfold runSession
  split
  · rename_i advanced
    rw [advanced] at flushes ⊢
    exact congrArg (fun result => (some result, _)) flushes
  · rfl

theorem isSome_runSession (session : Session) :
    (runSession fuel session).1.isSome = (session.machine.advance fuel).1.isSome := by
  have same := congrArg Prod.fst (session.advance_machine fuel)
  rw [← same]
  unfold runSession
  split
  · rename_i advanced
    rw [advanced]
    rfl
  · rfl

variable {machine : Machine}

theorem isSome_perform {task : Task} (undebugged : task.debug = false)
    (start : Start host.files task.program task.compare (.ok machine)) :
    (perform fuel host task).isSome ↔ ∃ k < fuel, machine.StopsAt k := by
  obtain ⟨session, ready, rfl, -⟩ := start.exists_session
  rw [perform, ready]
  simp only [undebugged, Bool.false_eq_true, if_false, Option.isSome_map, isSome_runSession]
  constructor
  · exact Machine.exists_stopsAt
  · rintro ⟨k, lt, stops⟩
    rw [stops.advance_eq lt]
    rfl

theorem exists_perform_eq {task : Task} {k : Nat} (undebugged : task.debug = false)
    (start : Start host.files task.program task.compare (.ok machine)) (stops : machine.StopsAt k)
    (lt : k < fuel) :
    ∃ outcome, perform fuel host task = some outcome ∧
      outcome.exitCode = exitCode (machine.after k).step.1 ∧
      outcome.errors =
        Session.shown (if task.reporting.trace then machine.tracedLines fuel else []) ++
          lastWords (machine.after fuel) (machine.after k).step.1 := by
  have fresh := start.fresh
  obtain ⟨session, ready, rfl, reporting, errors⟩ := start.exists_session
  obtain ⟨last, ran, stands, shown⟩ := runSession_eq fresh stops lt
  have flushes : last.machine.console.flush = .ok () := stands ▸ Machine.flush_after fresh (k + 1)
  have rest : session.machine.after fuel = last.machine :=
    (Machine.after_eq_of_halted lt stops.halted).trans stands.symm
  obtain ⟨exits, said⟩ := conclude_eq flushes (session.machine.after k).step.1
  refine ⟨_, ?_, exits, ?_⟩
  · rw [perform, ready]
    simp only [undebugged, Bool.false_eq_true, if_false, ran, Option.map_some]
  · rw [said, shown, errors, String.empty_append, Session.visible, reporting, rest]

theorem exitCode_iff {k : Nat} {compare : Option String}
    (start : Start files path compare (.ok machine)) (stops : machine.StopsAt k) :
    let code := exitCode (machine.after k).step.1
    (code = 0 ↔ machine.Completes) ∧ (code = 1 ↔ machine.LosesRecording) ∧
      (code = 101 ↔ machine.Breaks) ∧ (code = 0 ∨ code = 1 ∨ code = 101) := by
  have running := start.running
  have reliable := start.reliable
  rw [Machine.completes_iff running stops, Machine.losesRecording_iff running reliable stops,
    Machine.breaks_iff running reliable stops]
  have stopped := stops.stops
  have known (fault : Fault) (faulted : (machine.after k).step.1 = .error fault) :=
    Machine.exitCode_of_faulted running reliable stops faulted
  cases result : (machine.after k).step.1 with
  | ok status =>
    cases status with
    | running => exact absurd result stopped
    | halted => simp [exitCode]
  | error fault =>
    rcases known fault result with runtime | ⟨reason, rfl⟩
    · have known (reason : String) : fault ≠ .io reason := by
        rintro rfl
        exact Fault.exitCode_io_ne reason runtime
      simp [exitCode, runtime, known]
    · simp [exitCode, Fault.exitCode]

def Complains (code : UInt8) (said : String) : Prop :=
  (code = 0 ∧ said = "") ∨
    ∃ fault : Fault, fault.exitCode = code ∧ said = Session.complaint fault.message

theorem exists_complains (machine : Machine) (result : Except Fault Status) :
    ∃ said, Complains (exitCode result) said ∧ lastWords machine result =
      (if exitCode result = 101 then machine.core.processor.describe ++ "\n" else "") ++ said := by
  cases result with
  | ok status => exact ⟨"", .inl ⟨rfl, rfl⟩, rfl⟩
  | error fault => exact ⟨_, .inr ⟨fault, rfl, rfl⟩, rfl⟩

theorem exists_of_perform {task : Task} {outcome : Outcome}
    (ended : perform fuel host task = some outcome) (undebugged : task.debug = false)
    (start : Start host.files task.program task.compare (.ok machine)) :
    ∃ k < fuel, machine.StopsAt k ∧ outcome.exitCode = exitCode (machine.after k).step.1 ∧
      outcome.errors =
        Session.shown (if task.reporting.trace then machine.tracedLines fuel else []) ++
          lastWords (machine.after fuel) (machine.after k).step.1 := by
  obtain ⟨k, lt, stops⟩ := (isSome_perform undebugged start).1 (Option.isSome_of_mem ended)
  obtain ⟨_, performed, exits, errors⟩ := exists_perform_eq undebugged start stops lt
  rw [ended] at performed
  cases performed
  exact ⟨k, lt, stops, exits, errors⟩

def codeAfter (fuel : Nat) : Except UInt8 Machine → Option UInt8
  | .error code => some code
  | .ok machine => (machine.advance fuel).1.map exitCode

theorem map_exitCode_perform {task : Task} {start : Except UInt8 Machine}
    (undebugged : task.debug = false) (h : Start host.files task.program task.compare start) :
    (perform fuel host task).map Outcome.exitCode = codeAfter fuel start := by
  cases start with
  | error code =>
    obtain ⟨outcome, performed, exits, -⟩ := perform_of_fault h
    rw [performed, Option.map_some, exits, codeAfter]
  | ok machine =>
    rw [codeAfter]
    cases ends : (machine.advance fuel).1 with
    | none =>
      have unfinished : ¬ (perform fuel host task).isSome := by
        rw [isSome_perform undebugged h]
        rintro ⟨k, lt, stops⟩
        rw [stops.advance_eq lt] at ends
        cases ends
      rw [Option.not_isSome_iff_eq_none.1 unfinished]
      rfl
    | some result =>
      obtain ⟨k, lt, stops⟩ := Machine.exists_stopsAt (by rw [ends]; rfl)
      obtain ⟨outcome, performed, exits, -⟩ := exists_perform_eq undebugged h stops lt
      rw [stops.advance_eq lt] at ends
      rw [performed, Option.map_some, exits, ← ends, Option.map_some, exitCode_map]

theorem Asks.map_exitCode_run {start : Except UInt8 Machine}
    (asks : Asks host.options arguments read path)
    (h : Start host.files path (read.value? .compare) start) :
    (run fuel host arguments).map Outcome.exitCode = codeAfter fuel start := by
  rw [asks.run_eq]
  exact map_exitCode_perform rfl h

theorem Asks.exitCode_congr {host' : Host} {arguments' : List String} {read' : Arguments}
    (asks : Asks host.options arguments read path)
    (asks' : Asks host'.options arguments' read' path) (files : host'.files = host.files)
    (compare : read'.value? .compare = read.value? .compare) (fuel : Nat) :
    (run fuel host' arguments').map Outcome.exitCode =
      (run fuel host arguments).map Outcome.exitCode := by
  obtain ⟨start, h⟩ := exists_start host.files path (read.value? .compare)
  have h' : Start host'.files path (read'.value? .compare) start := by rwa [files, compare]
  rw [asks.map_exitCode_run h, asks'.map_exitCode_run h']

theorem exit_code_by_first_cause (documented : host.options.Documented)
    (asks : Asks host.options arguments read path) :
    let start := Start host.files path (read.value? .compare)
    let result (fuel : Nat) := run fuel host arguments
    (∃! first, start first) ∧
    (∀ code, start (.error code) → ∀ fuel, ∃ outcome,
      result fuel = some outcome ∧ outcome.exitCode = code ∧
        ∃ fault : Fault, fault.exitCode = code ∧
          outcome.errors = Session.complaint fault.message) ∧
    (∀ machine, start (.ok machine) → ∀ fuel,
      ((result fuel).isSome ↔ ∃ k < fuel, machine.StopsAt k) ∧
      ∀ outcome, result fuel = some outcome →
        (outcome.exitCode = 0 ↔ machine.Completes) ∧
        (outcome.exitCode = 1 ↔ machine.LosesRecording) ∧
        (outcome.exitCode = 101 ↔ machine.Breaks) ∧
        (outcome.exitCode = 0 ∨ outcome.exitCode = 1 ∨ outcome.exitCode = 101) ∧
        ∃ said dump, Complains outcome.exitCode said ∧
          (machine.after fuel).core.processor.DescribedBy dump ∧ outcome.errors =
            Session.shown (if read.has .trace then machine.tracedLines fuel else []) ++
            (if outcome.exitCode = 101 then dump ++ "\n" else "") ++ said) ∧
    (∀ source bytes, host.files path = .contents (String.toUTF8 source) →
      Program.parse source = .ok bytes → ∀ fuel outcome, result fuel = some outcome →
        outcome.exitCode ≠ 2) ∧
    (∀ (host' : Host) arguments' read', host'.files = host.files →
      Asks host'.options arguments' read' path →
      read'.value? .compare = read.value? .compare →
      ∀ fuel, (run fuel host' arguments').map Outcome.exitCode =
        (result fuel).map Outcome.exitCode) ∧
    ∀ switch, switch = .verbose ∨ switch = .trace → read.has switch = false →
      ∀ fuel, (run fuel host (switch.flag :: arguments)).map Outcome.exitCode =
        (result fuel).map Outcome.exitCode := by
  intro start result
  have performed (fuel : Nat) : result fuel = perform fuel host _ := asks.run_eq fuel
  refine ⟨existsUnique_start host.files path _, fun code failed fuel => ?_,
    fun machine ready fuel => ⟨?_, fun outcome ended => ?_⟩,
    fun source bytes text parsed fuel outcome ended => ?_,
    fun host' arguments' read' files asks' compare => asks.exitCode_congr asks' files compare,
    fun switch reports absent => ?_⟩
  · rw [performed]
    exact perform_of_fault failed
  · rw [performed]
    exact isSome_perform rfl ready
  · rw [performed] at ended
    obtain ⟨k, lt, stops, exits, errors⟩ := exists_of_perform ended rfl ready
    obtain ⟨zero, one, most, only⟩ := exitCode_iff ready stops
    obtain ⟨said, complains, last⟩ :=
      exists_complains (machine.after fuel) (machine.after k).step.1
    have described := (machine.after fuel).core.processor.describedBy_describe
    rw [exits]
    refine ⟨zero, one, most, only, said, _, complains, described, ?_⟩
    rw [errors, last, String.append_assoc]
    rfl
  · obtain ⟨first, h⟩ := exists_start host.files path (read.value? .compare)
    have exits : (run fuel host arguments).map Outcome.exitCode = codeAfter fuel first :=
      asks.map_exitCode_run h
    have ended : run fuel host arguments = some outcome := ended
    rw [ended, Option.map_some] at exits
    cases first with
    | error code => exact Option.some.inj exits ▸ h.ne_two_of_parsed text parsed
    | ok machine =>
      have ended : perform fuel host _ = some outcome := (performed fuel).symm.trans ended
      obtain ⟨k, lt, stops, exits, -⟩ := exists_of_perform ended rfl h
      obtain ⟨-, -, -, only⟩ := exitCode_iff h stops
      rw [exits]
      rcases only with code | code | code <;> rw [code] <;> decide
  · have others : switch.takesValue = false ∧ switch ≠ .help ∧ switch ≠ .debug := by
      rcases reports with rfl | rfl <;> decide
    obtain ⟨plain, unhelpful, direct⟩ := others
    have asks' := asks.flag documented plain absent unhelpful direct
    exact asks.exitCode_congr asks' rfl (Arguments.value?_cons .compare)

theorem asks_dashes (parsed : Dashes.parse arguments = .ok read)
    (unhelped : read.has .help = false) (undebugged : read.has .debug = false)
    (named : read.free.head? = some path) : Asks .dashes arguments read path :=
  ⟨OptionParser.parse_dashes_eq_ok_iff.2 parsed, unhelped, undebugged, named⟩

/-- Every exit code there is, from a program that halts, one that breaks, one whose recording
cannot be read on, one that is refused, and from files that are not there. -/
theorem exit_code_by_first_cause_each :
    let halts := "TRACE: 00 | 01 00 00 | 00 00 00 00 00 00 00 F4\n"
    let waits := "TRACE: 00 | 00 01 00 | 00 00 00 00 00 00 00 F4\n"
    let files (path : String) : FileAccess :=
      if path = "halt" then .contents "00000001\n".toUTF8
      else if path = "wait" then .contents "00000000\n00000001\n".toUTF8
      else if path = "break" then .contents "11111111\n".toUTF8
      else if path = "text" then .contents "2\n".toUTF8
      else if path = "log" then .contents halts.toUTF8
      else if path = "torn" then .broken waits.toUTF8 "Input/output error (os error 5)"
      else .missing
    let host : Host := { options := .dashes, files }
    let ends (fuel : Nat) (arguments : List String) (code : UInt8) :=
      (run fuel host arguments).map Outcome.exitCode = some code
    let halting : Machine := { Machine.loaded {} [1] with log := some (.ofText halts) }
    let waiting : Machine := { Machine.loaded {} [0, 1] with
      log := some (.interrupted waits.toUTF8 "Input/output error (os error 5)") }
    let breaking : Machine := .loaded {} [255]
    (ends 1 ["-t", "halt", "-c", "log"] 0 ∧ halting.Completes) ∧
    (ends 2 ["-c", "torn", "wait"] 1 ∧ waiting.LosesRecording) ∧
    (ends 1 ["-v", "break"] 101 ∧ breaking.Breaks ∧ ∃ dump said outcome,
      run 1 host ["-v", "break"] = some outcome ∧
      (breaking.after 1).core.processor.DescribedBy dump ∧
      outcome.errors = dump ++ "\n" ++ said) ∧
    ∀ fuel, ends fuel ["text"] 2 ∧ ends fuel ["lost"] 3 ∧ ends fuel ["halt", "-clost"] 4 := by
  intro halts waits files host ends halting waiting breaking
  have documented := OptionParser.documented_dashes
  have halt : files "halt" = .contents "00000001\n".toUTF8 := rfl
  have wait : files "wait" = .contents "00000000\n00000001\n".toUTF8 := rfl
  have parsed : Program.parse "00000001\n" = .ok [1] := by decide
  refine ⟨?halts, ?torn, ?breaks, fun fuel => ⟨?refused, ?absent, ?unlogged⟩⟩
  case halts =>
    have asks : Asks host.options ["-t", "halt", "-c", "log"]
        { given := [{ switch := .trace }, { switch := .compare, value := some "log" }],
          free := ["halt"] } "halt" :=
      asks_dashes (by cbv) rfl rfl rfl
    have start : Start files "halt" (some "log") (.ok halting) := .watched halt parsed rfl
      (FileAccess.opens_contents_iff.2 rfl)
    have code : ends 1 ["-t", "halt", "-c", "log"] 0 := by
      refine (asks.map_exitCode_run start).trans ?_
      decide +kernel
    obtain ⟨-, -, runs, -⟩ := exit_code_by_first_cause documented asks
    obtain ⟨outcome, ended, exits⟩ := Option.map_eq_some_iff.1 code
    exact ⟨code, ((runs halting start 1).2 outcome ended).1.1 exits⟩
  case torn =>
    have asks : Asks host.options ["-c", "torn", "wait"]
        { given := [{ switch := .compare, value := some "torn" }], free := ["wait"] } "wait" :=
      asks_dashes (by cbv) rfl rfl rfl
    have parsed : Program.parse "00000000\n00000001\n" = .ok [0, 1] := by decide
    have start : Start files "wait" (some "torn") (.ok waiting) := .watched wait parsed rfl
      (FileAccess.opens_broken_iff.2 rfl)
    have code : ends 2 ["-c", "torn", "wait"] 1 := by
      refine (asks.map_exitCode_run start).trans ?_
      decide +kernel
    obtain ⟨-, -, runs, -⟩ := exit_code_by_first_cause documented asks
    obtain ⟨outcome, ended, exits⟩ := Option.map_eq_some_iff.1 code
    exact ⟨code, ((runs waiting start 2).2 outcome ended).2.1.1 exits⟩
  case breaks =>
    have asks : Asks host.options ["-v", "break"]
        { given := [{ switch := .verbose }], free := ["break"] } "break" :=
      asks_dashes (by cbv) rfl rfl rfl
    have parsed : Program.parse "11111111\n" = .ok [255] := by decide
    have start : Start files "break" none (.ok breaking) := .alone rfl parsed rfl
    have code : ends 1 ["-v", "break"] 101 := by
      refine (asks.map_exitCode_run start).trans ?_
      decide +kernel
    obtain ⟨-, -, runs, -⟩ := exit_code_by_first_cause documented asks
    obtain ⟨outcome, ended, exits⟩ := Option.map_eq_some_iff.1 code
    obtain ⟨-, -, breaks, -, said, dump, -, described, errors⟩ :=
      (runs breaking start 1).2 outcome ended
    refine ⟨code, breaks.1 exits, dump, said, outcome, ended, described, ?_⟩
    rw [errors, if_pos exits]
    exact congrArg (· ++ said) String.empty_append
  case refused =>
    have asks : Asks host.options ["text"] { free := ["text"] } "text" :=
      asks_dashes (by cbv) rfl rfl rfl
    obtain ⟨fault, refused⟩ : ∃ fault, Program.parse "2\n" = .error fault := ⟨_, rfl⟩
    have start : Start files "text" none (.error 2) := .rejected rfl refused
    obtain ⟨-, gives, -⟩ := exit_code_by_first_cause documented asks
    obtain ⟨outcome, ended, exits, -⟩ := gives 2 start fuel
    exact Option.map_eq_some_iff.2 ⟨outcome, ended, exits⟩
  case absent =>
    have asks : Asks host.options ["lost"] { free := ["lost"] } "lost" :=
      asks_dashes (by cbv) rfl rfl rfl
    obtain ⟨-, gives, -⟩ := exit_code_by_first_cause documented asks
    obtain ⟨outcome, ended, exits, -⟩ := gives 3 (.missing rfl) fuel
    exact Option.map_eq_some_iff.2 ⟨outcome, ended, exits⟩
  case unlogged =>
    have asks : Asks host.options ["halt", "-clost"]
        { given := [{ switch := .compare, value := some "lost" }], free := ["halt"] } "halt" :=
      asks_dashes (by cbv) rfl rfl rfl
    have start : Start files "halt" (some "lost") (.error 4) := .logMissing halt parsed rfl rfl
    obtain ⟨-, gives, -⟩ := exit_code_by_first_cause documented asks
    obtain ⟨outcome, ended, exits, -⟩ := gives 4 start fuel
    exact Option.map_eq_some_iff.2 ⟨outcome, ended, exits⟩

end CommandLine
end ByteMachine
