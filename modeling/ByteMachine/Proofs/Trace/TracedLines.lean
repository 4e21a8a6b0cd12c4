import ByteMachine.Proofs.Trace.Recording
import ByteMachine.Proofs.Trace.Verdict
import ByteMachine.Session

/-! The lines of a traced run: one for each instruction that is fetched, with the frame that a
comparison asks for, and on standard error in this order. -/

namespace ByteMachine

namespace Machine

def line? (machine : Machine) : Option (List Char) :=
  if machine.halted then none
  else
    match machine.fetch with
    | .error _ => none
    | .ok instruction => some (Trace.line machine.core.processor instruction).toList

def tracedLines : Nat → Machine → List (List Char)
  | 0, _ => []
  | n + 1, machine => machine.line?.toList ++ machine.step.2.tracedLines n

variable {machine : Machine} {n : Nat} {text : List Char}

theorem tracedLines_of_halted (halted : machine.halted) (n : Nat) : machine.tracedLines n = [] := by
  induction n with
  | zero => rfl
  | succ n ih =>
    rw [tracedLines, step_halted halted, ih, line?, if_pos halted]
    rfl

theorem tracedLines_add (m n : Nat) (machine : Machine) :
    machine.tracedLines (m + n) = machine.tracedLines m ++ (machine.after m).tracedLines n := by
  induction m generalizing machine with
  | zero => rw [Nat.zero_add]; rfl
  | succ m ih =>
    rw [Nat.add_right_comm, tracedLines, tracedLines, ih, after_step, List.append_assoc]

theorem isEntry_of_line? (h : machine.line? = some text) :
    Trace.IsEntry text := by
  unfold line? at h
  split at h
  · cases h
  · split at h
    · cases h
    · rw [← Option.some.inj h]
      exact Trace.isEntry_line _ _

theorem map_readFrame_line? (machine : Machine) :
    machine.line?.map Trace.readFrame = machine.frame?.map .ok := by
  unfold line? frame?
  split
  · rfl
  · cases fetched : machine.fetch with
    | error fault => rfl
    | ok instruction =>
      exact congrArg some (Trace.readFrame_line (pc_lt_size fetched) instruction)

theorem frame?_eq_none (unshown : machine.line? = none) : machine.frame? = none := by
  have same := machine.map_readFrame_line?
  rw [unshown, Option.map_none] at same
  exact Option.map_eq_none_iff.1 same.symm

theorem map_readFrame_tracedLines (n : Nat) (machine : Machine) :
    (machine.tracedLines n).map Trace.readFrame = (machine.executed n).map .ok := by
  induction n generalizing machine with
  | zero => rfl
  | succ n ih =>
    have first := machine.map_readFrame_line?
    rw [tracedLines, List.map_append, ← Option.toList_map, first]
    unfold executed
    cases framed : machine.frame? with
    | none => rw [tracedLines_of_halted (silent_of_frame?_eq_none framed).1]; rfl
    | some frame => exact congrArg (_ :: ·) (ih _)

theorem isEntry_of_mem_tracedLines (mem : text ∈ machine.tracedLines n) :
    Trace.IsEntry text := by
  induction n generalizing machine with
  | zero => cases mem
  | succ n ih =>
    rcases List.mem_append.1 mem with first | later
    · exact isEntry_of_line? (Option.mem_toList.1 first)
    · exact ih later

theorem exists_readFrame_of_mem_tracedLines (mem : text ∈ machine.tracedLines n) :
    ∃ frame, Trace.readFrame text = .ok frame := by
  have read := List.mem_map_of_mem (f := Trace.readFrame) mem
  rw [map_readFrame_tracedLines, List.mem_map] at read
  obtain ⟨frame, _, same⟩ := read
  exact ⟨frame, same.symm⟩

end Machine

namespace Session

def shown (lines : List (List Char)) : String :=
  String.ofList (lines.flatMap (· ++ ['\n']))

theorem shown_nil (errors : String) : errors ++ shown [] = errors :=
  String.append_empty

theorem shown_append (lines more : List (List Char)) :
    shown (lines ++ more) = shown lines ++ shown more := by
  rw [shown, List.flatMap_append, String.ofList_append, shown, shown]

theorem shown_singleton (text : String) : shown [text.toList] = text ++ "\n" := by
  rw [shown, List.flatMap_singleton, String.ofList_append, String.ofList_toList]

variable {session : Session}

def visible (session : Session) (lines : List (List Char)) : List (List Char) :=
  if session.reporting.trace then lines else []

theorem visible_nil (session : Session) : session.visible [] = [] := by
  unfold visible
  split <;> rfl

theorem visible_append (lines more : List (List Char)) :
    session.visible (lines ++ more) = session.visible lines ++ session.visible more := by
  unfold visible
  split <;> rfl

theorem visible_congr {other : Session} (same : other.reporting = session.reporting)
    (lines : List (List Char)) : other.visible lines = session.visible lines := by
  rw [visible, same, visible]

theorem exists_announce (running : session.machine.halted = false) :
    ∃ output, session.announce = { session with
      output
      errors := session.errors ++ shown (session.visible session.machine.line?.toList) } := by
  unfold announce Machine.line?
  rw [if_neg (by rw [running]; exact Bool.false_ne_true)]
  cases session.machine.fetch with
  | error fault =>
    refine ⟨session.output, ?_⟩
    simp only [Option.toList_none, visible_nil, shown_nil]
  | ok instruction =>
    cases traced : session.reporting.trace <;>
      simp only [visible, traced, Bool.false_eq_true, if_true, if_false, Option.toList_some,
        shown_nil, shown_singleton, printError]
    · split
      · exact exists_tell ..
      · exact ⟨_, rfl⟩
    · split
      · exact exists_tell ..
      · exact ⟨_, rfl⟩

theorem errors_step (session : Session) :
    session.step.2.errors =
        session.errors ++ shown (session.visible session.machine.line?.toList) ∧
      session.step.2.reporting = session.reporting := by
  unfold step
  split
  · rename_i halted
    rw [Machine.line?, if_pos halted, Option.toList_none, visible_nil]
    exact ⟨(shown_nil _).symm, rfl⟩
  · rename_i running
    obtain ⟨output, announced⟩ := exists_announce (Bool.not_eq_true _ ▸ running)
    obtain ⟨output, concluded⟩ := exists_conclude
      (session.announce.follow session.machine.step.2) session.machine.step.1
    dsimp only
    rw [concluded, follow, announced]
    exact ⟨rfl, rfl⟩

theorem errors_advance (session : Session) (n : Nat) :
    (session.advance n).2.errors =
      session.errors ++ shown (session.visible (session.machine.tracedLines n)) := by
  induction n generalizing session with
  | zero => rw [Machine.tracedLines, visible_nil]; exact (shown_nil _).symm
  | succ n ih =>
    obtain ⟨errors, reporting⟩ := session.errors_step
    have last (stopped : session.step.1 ≠ .ok .running) :
        shown (session.visible (session.step.2.machine.tracedLines n)) = "" := by
      have stops : session.machine.StopsAt 0 := ⟨nofun, session.result_step ▸ stopped⟩
      have none := Machine.tracedLines_of_halted stops.halted n
      rw [session.machine_step]
      exact (congrArg (shown ∘ session.visible) none).trans (congrArg shown session.visible_nil)
    rw [Machine.tracedLines, visible_append, shown_append, ← String.append_assoc, ← errors,
      ← session.machine_step]
    unfold advance
    split <;> rename_i stepped <;> rw [stepped] at reporting last ⊢
    · rw [ih, visible_congr reporting]
    · rw [last nofun, String.append_empty]
    · rw [last nofun, String.append_empty]

end Session

end ByteMachine
