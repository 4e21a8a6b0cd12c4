import ByteMachine.CommandLine.Run
import ByteMachine.Proofs.Program.Loading
import ByteMachine.Proofs.Program.Rejection
import ByteMachine.Proofs.Semantics.Runs
import ByteMachine.Proofs.Text.FileLines

/-! What a command makes of its files before any instruction is executed: it gives up with an exit
code, or it has a machine to run. -/

namespace ByteMachine

namespace CommandLine

variable {files : String → FileAccess} {path : String} {compare : Option String}

/-- The program comes before the recording, and a file has to be there before it can be read. -/
inductive Start (files : String → FileAccess) (path : String) (compare : Option String) :
    Except UInt8 Machine → Prop
  | missing (absent : files path = .missing) : Start files path compare (.error 3)
  | unreadable (found : files path ≠ .missing)
      (unread : ∀ source : String, files path ≠ .contents source.toUTF8) :
      Start files path compare (.error 1)
  | rejected {source : String} {fault : Fault} (text : files path = .contents source.toUTF8)
      (rejected : Program.parse source = .error fault) : Start files path compare (.error 2)
  | logMissing {source log : String} {bytes : List UInt8}
      (text : files path = .contents source.toUTF8) (parsed : Program.parse source = .ok bytes)
      (compared : compare = some log) (absent : files log = .missing) :
      Start files path compare (.error 4)
  | logRefused {source log reason : String} {bytes : List UInt8}
      (text : files path = .contents source.toUTF8) (parsed : Program.parse source = .ok bytes)
      (compared : compare = some log) (refused : files log = .refused reason) :
      Start files path compare (.error 1)
  | alone {source : String} {bytes : List UInt8}
      (text : files path = .contents source.toUTF8) (parsed : Program.parse source = .ok bytes)
      (uncompared : compare = none) : Start files path compare (.ok (.loaded {} bytes))
  | watched {source log : String} {bytes : List UInt8} {recording : Text.LineSource}
      (text : files path = .contents source.toUTF8) (parsed : Program.parse source = .ok bytes)
      (compared : compare = some log) (opened : (files log).Opens recording) :
      Start files path compare (.ok { Machine.loaded {} bytes with log := some recording })

theorem exists_start (files : String → FileAccess) (path : String) (compare : Option String) :
    ∃ start, Start files path compare start := by
  by_cases absent : files path = .missing
  · exact ⟨_, .missing absent⟩
  by_cases text : ∃ source : String, files path = .contents source.toUTF8
  · obtain ⟨source, text⟩ := text
    cases parsed : Program.parse source with
    | error fault => exact ⟨_, .rejected text parsed⟩
    | ok bytes =>
      cases compared : compare with
      | none => exact ⟨_, .alone text parsed rfl⟩
      | some log =>
        cases access : files log with
        | missing => exact ⟨_, .logMissing text parsed rfl access⟩
        | refused reason => exact ⟨_, .logRefused text parsed rfl access⟩
        | broken bytes reason =>
          have opened : (files log).Opens _ := access ▸ FileAccess.opens_broken_iff.2 rfl
          exact ⟨_, .watched text parsed rfl opened⟩
        | contents bytes =>
          have opened : (files log).Opens _ := access ▸ FileAccess.opens_contents_iff.2 rfl
          exact ⟨_, .watched text parsed rfl opened⟩
  · exact ⟨_, .unreadable absent fun source contents => text ⟨source, contents⟩⟩

theorem fromUTF8?_toUTF8 (source : String) : String.fromUTF8? source.toUTF8 = some source := by
  rw [String.fromUTF8?, String.toUTF8_eq_toByteArray, dif_pos source.isValidUTF8]
  rfl

theorem eq_toUTF8 {bytes : ByteArray} {source : String} (h : String.fromUTF8? bytes = some source) :
    bytes = source.toUTF8 := by
  rw [String.fromUTF8?, Option.dite_none_right_eq_some] at h
  obtain ⟨valid, same⟩ := h
  obtain rfl := Option.some.inj same
  rfl

theorem read_text (path source : String) :
    Program.read path (.contents source.toUTF8) = Program.parse source := by
  rw [Program.read, fromUTF8?_toUTF8]

theorem read_unreadable {access : FileAccess} (path : String) (found : access ≠ .missing)
    (unread : ∀ source : String, access ≠ .contents source.toUTF8) :
    ∃ reason, Program.read path access = .error (.io reason) := by
  cases access with
  | missing => exact absurd rfl found
  | refused reason | broken bytes reason => exact ⟨reason, rfl⟩
  | contents bytes =>
    cases text : String.fromUTF8? bytes with
    | none =>
      refine ⟨Text.LineSource.invalidText, ?_⟩
      rw [Program.read, text]
    | some source => exact absurd (congrArg FileAccess.contents (eq_toUTF8 text)) (unread source)

theorem compareAgainst_opened {access : FileAccess} {recording : Text.LineSource}
    (opened : access.Opens recording) (machine : Machine) (path : String) :
    machine.compareAgainst path access = (.ok (), { machine with log := some recording }) := by
  cases access with
  | missing | refused => cases opened
  | broken => rw [FileAccess.opens_broken_iff.1 opened, Machine.compareAgainst]
  | contents => rw [FileAccess.opens_contents_iff.1 opened, Machine.compareAgainst]

section

variable {task : Task} {fault : Fault} {bytes : List UInt8}

theorem prepare_of_refused (h : Program.read task.program (files task.program) = .error fault) :
    prepare files task = (.error fault, { reporting := task.reporting }) := by
  rw [prepare, loadProgram, h]

theorem exists_prepare_eq {source : String} (text : files task.program = .contents source.toUTF8)
    (parsed : Program.parse source = .ok bytes) :
    ∃ session : Session, prepare files task = openLog files task session ∧
      session.machine = .loaded {} bytes ∧ session.reporting = task.reporting ∧
      session.errors = "" := by
  have load := Machine.load_eq_loaded (Program.parse_eq_ok_iff.1 parsed).1 {}
  obtain ⟨output, told⟩ := Session.exists_tell
    { machine := .loaded {} bytes, reporting := task.reporting } "ls8"
    ("Loaded " ++ Text.decimal bytes.length ++ " byte program")
  refine ⟨{ machine := .loaded {} bytes, reporting := task.reporting, output }, ?_, rfl, rfl, rfl⟩
  simp only [prepare, loadProgram, text, read_text, parsed, load, told]

theorem Start.exists_fault {code : UInt8}
    (h : Start files task.program task.compare (.error code)) :
    ∃ (fault : Fault) (session : Session), prepare files task = (.error fault, session) ∧
      fault.exitCode = code ∧ session.errors = "" := by
  cases h with
  | missing absent => exact ⟨_, _, prepare_of_refused (by rw [absent]; rfl), rfl, rfl⟩
  | unreadable found unread =>
    obtain ⟨reason, read⟩ := read_unreadable task.program found unread
    exact ⟨_, _, prepare_of_refused read, rfl, rfl⟩
  | rejected text rejected =>
    have read := (congrArg (Program.read task.program) text).trans (read_text _ _)
    exact ⟨_, _, prepare_of_refused (read.trans rejected), Program.exitCode_of_parse rejected, rfl⟩
  | logMissing text parsed compared absent =>
    obtain ⟨session, prepared, -, -, errors⟩ := exists_prepare_eq text parsed
    rw [prepared]
    simp only [openLog, compared, absent]
    exact ⟨_, _, rfl, rfl, errors⟩
  | logRefused text parsed compared refused =>
    obtain ⟨session, prepared, -, -, errors⟩ := exists_prepare_eq text parsed
    rw [prepared]
    simp only [openLog, compared, refused]
    exact ⟨_, _, rfl, rfl, errors⟩

theorem Start.exists_session {machine : Machine}
    (h : Start files task.program task.compare (.ok machine)) :
    ∃ session : Session, prepare files task = (.ok (), session) ∧ session.machine = machine ∧
      session.reporting = task.reporting ∧ session.errors = "" := by
  cases h with
  | alone text parsed uncompared =>
    obtain ⟨session, prepared, machine, reporting, errors⟩ := exists_prepare_eq text parsed
    rw [prepared]
    simp only [openLog, uncompared]
    exact ⟨session, rfl, machine, reporting, errors⟩
  | watched text parsed compared opened =>
    obtain ⟨session, prepared, machine, reporting, errors⟩ := exists_prepare_eq text parsed
    rw [prepared]
    simp only [openLog, compared, compareAgainst_opened opened]
    exact ⟨_, rfl, by rw [machine], reporting, errors⟩

end

def prepared (files : String → FileAccess) (task : Task) : Except UInt8 Machine :=
  match prepare files task with
  | (.error fault, _) => .error fault.exitCode
  | (.ok (), session) => .ok session.machine

theorem Start.eq_prepared {task : Task} {start : Except UInt8 Machine}
    (h : Start files task.program task.compare start) : start = prepared files task := by
  rw [prepared]
  cases start with
  | error code =>
    obtain ⟨fault, session, failed, exits, -⟩ := h.exists_fault
    rw [failed, ← exits]
  | ok machine =>
    obtain ⟨session, ready, stands, -⟩ := h.exists_session
    rw [ready, ← stands]

theorem existsUnique_start (files : String → FileAccess) (path : String)
    (compare : Option String) : ∃! start, Start files path compare start := by
  obtain ⟨start, h⟩ := exists_start files path compare
  let task : Task := { program := path, compare, debug := false, reporting := {} }
  have decided (start : Except UInt8 Machine) (h : Start files task.program task.compare start) :
      start = prepared files task := h.eq_prepared
  exact ⟨start, h, fun other h' => (decided other h').trans (decided start h).symm⟩

theorem Start.ne_two_of_parsed {code : UInt8} {source : String} {bytes : List UInt8}
    (h : Start files path compare (.error code)) (text : files path = .contents source.toUTF8)
    (parsed : Program.parse source = .ok bytes) : code ≠ 2 := by
  cases h with
  | rejected text' rejected =>
    have same := String.toByteArray_inj.1 (FileAccess.contents.inj (text'.symm.trans text))
    rw [same, parsed] at rejected
    cases rejected
  | _ => decide

theorem Start.running {machine : Machine} (h : Start files path compare (.ok machine)) :
    machine.halted = false := by
  cases h <;> rfl

theorem Start.fresh {machine : Machine} (h : Start files path compare (.ok machine)) :
    machine.console = {} := by
  cases h <;> rfl

theorem Start.reliable {machine : Machine} (h : Start files path compare (.ok machine)) :
    machine.console.Reliable := by
  rw [h.fresh]
  exact fun _ _ => rfl

end CommandLine
end ByteMachine
