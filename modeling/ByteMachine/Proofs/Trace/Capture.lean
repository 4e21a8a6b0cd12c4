import ByteMachine.Proofs.Trace.Interleaving
import ByteMachine.Proofs.Trace.Replay
import ByteMachine.Proofs.Trace.TracedLines

/-! Trace lines and output captured together, the lines at once and the output whenever a buffer is
emptied. A machine compared with such a recording replays the run, unless the output spells a tag
anywhere but right before a line. -/

namespace ByteMachine.Machine

variable {machine plain watched : Machine} {rest : List (List Char)} {n : Nat}

structure Replays (plain watched : Machine) (n : Nat) : Prop where
  results : ∀ i < n, (watched.after i).step.1 = (plain.after i).step.1
  matching : ∀ i < n, ∀ expected actual,
    (watched.after i).step.1 ≠ .error (.traceMismatch expected actual)
  alike : ∀ i ≤ n, (plain.after i).Alike (watched.after i)

theorem Follows.replays_iff (h : Follows plain watched rest) :
    plain.Replays watched n ↔ ∀ i < n, ¬ (plain.after i).Differs rest[i]? := by
  constructor
  · intro replays i
    -- the first difference would have been a mismatch
    induction i using Nat.strongRecOn with
    | ind i ih =>
      intro lt differs
      have follows := h.after (fun j before => ih j before (Nat.lt_trans before lt)) (Nat.le_refl i)
      rw [← List.head?_drop] at differs
      exact replays.matching i lt _ _ (follows.step_differs differs).1
  · intro same
    refine ⟨fun i lt => h.step_after same lt, fun i lt => ?_, fun i le => (h.after same le).alike⟩
    rw [h.step_after same lt]
    exact step_ne_traceMismatch (h.after same (Nat.le_of_lt lt)).unlogged

theorem Follows.replays_iff_recorded {log : List Char}
    (h : Follows plain watched (Trace.entries (Text.pieces '\n' log))) :
    plain.Replays watched n ↔ Trace.Recorded (plain.tracedLines n) log := by
  rw [h.replays_iff, ← executed_recorded_iff, ← map_readFrame_tracedLines, Trace.Recorded]

theorem Follows.mismatches {text : List Char} {others : List (List Char)}
    (h : Follows plain watched (plain.tracedLines n ++ text :: others))
    (length : (plain.tracedLines n).length = n) (differs : (plain.after n).Differs (some text)) :
    (watched.after n).step.1 =
      .error (.traceMismatch (String.ofList text) (plain.after n).traceLine) := by
  have same : ∀ i < n, ¬ (plain.after i).Differs (plain.tracedLines n ++ text :: others)[i]? := by
    rw [← executed_recorded_iff, ← map_readFrame_tracedLines, List.map_append]
    exact List.prefix_append _ _
  have follows := h.after same (Nat.le_refl n)
  rw [List.drop_left' length] at follows
  exact (follows.step_differs differs).1

/-- One of the ways in which the first steps can be captured. Behind each trace line stands what was
let through of the output before the next line came, cut wherever the buffer was emptied. -/
structure Capture (machine : Machine) (n : Nat) where
  chunks : List (List Char)
  length_chunks : chunks.length = (machine.tracedLines n).length
  whole : (machine.after n).console.written =
    machine.console.written ++ (String.ofList chunks.flatten).toUTF8
  printed : ∀ i ≤ n, ∃ buffered, (machine.after i).console.written =
    machine.console.written ++ (String.ofList ((chunks.take i).flatten ++ buffered)).toUTF8

def Capture.text (capture : machine.Capture n) : String :=
  String.ofList (Trace.interleave (machine.tracedLines n) capture.chunks)

theorem append_no_text (bytes : ByteArray) : bytes ++ (String.ofList []).toUTF8 = bytes :=
  ByteArray.append_empty

theorem nonempty_capture_of_silent (unshown : machine.tracedLines n = [])
    (silent : ∀ i ≤ n, (machine.after i).console = machine.console) :
    Nonempty (machine.Capture n) := by
  refine ⟨[], by rw [unshown], ?_, fun i le => ⟨[], ?_⟩⟩
  · rw [silent n (Nat.le_refl n), List.flatten_nil, append_no_text]
  · rw [silent i le, List.take_nil, List.flatten_nil, List.append_nil, append_no_text]

theorem nonempty_capture (reliable : machine.console.Reliable) (n : Nat) :
    Nonempty (machine.Capture n) := by
  induction n generalizing machine with
  | zero => exact nonempty_capture_of_silent rfl fun i le => by rw [Nat.le_zero.1 le]; rfl
  | succ n ih =>
    cases shown : machine.line? with
    | none =>
      obtain ⟨halted, silent⟩ := silent_of_frame?_eq_none (frame?_eq_none shown)
      refine nonempty_capture_of_silent ?_ fun i _ => ?_
      · rw [tracedLines, shown, tracedLines_of_halted halted]
        rfl
      · cases i with
        | zero => rfl
        | succ i =>
          rw [after_eq_of_halted (Nat.succ_le_succ (Nat.zero_le i)) halted]
          exact silent
    | some text =>
      obtain ⟨out, _, console⟩ := exists_output reliable
      obtain ⟨rest⟩ := ih (reliable_step reliable)
      have written (later : List Char) :
          machine.step.2.console.written ++ (String.ofList later).toUTF8 =
            machine.console.written ++ (String.ofList (out ++ later)).toUTF8 := by
        simp only [console, String.ofList_append, String.toUTF8, String.toByteArray_append,
          ByteArray.append_assoc]
      refine ⟨out :: rest.chunks, ?_, ?_, fun i le => ?_⟩
      · rw [tracedLines, shown, List.length_cons, rest.length_chunks]
        rfl
      · rw [← after_step, rest.whole, written, List.flatten_cons]
      · cases i with
        | zero => exact ⟨[], (append_no_text _).symm⟩
        | succ i =>
          obtain ⟨buffered, after⟩ := rest.printed i (Nat.le_of_succ_le_succ le)
          refine ⟨buffered, ?_⟩
          rw [← after_step, after, written, List.take_succ_cons, List.flatten_cons,
            List.append_assoc]

theorem Capture.follows {console : Console} {program : List UInt8}
    (capture : (loaded console program).Capture n) (path : String) :
    Follows (loaded console program)
      ((loaded console program).compareAgainst path (.contents capture.text.toUTF8)).2
      (Trace.entries (Text.pieces '\n'
        (Trace.interleave ((loaded console program).tracedLines n) capture.chunks))) := by
  have follows := follows_loaded console program path capture.text
  rwa [Trace.frames, text, String.toList_ofList] at follows

theorem capture_replays (console : Console) (program : List UInt8) (path : String) (n : Nat)
    (capture : (loaded console program).Capture n) :
    let plain := loaded console program
    let watched := (plain.compareAgainst path (.contents capture.text.toUTF8)).2
    ((∀ chunk ∈ capture.chunks.dropLast, Trace.Harmless chunk) → plain.Replays watched n) ∧
    (¬ Trace.tag <:+: capture.chunks.flatten → plain.Replays watched n) ∧
    ((∀ chunk ∈ capture.chunks.dropLast, '|' ∉ chunk) → plain.Replays watched n →
      ∀ chunk ∈ capture.chunks.dropLast, Trace.Harmless chunk) := by
  intro plain watched
  have start : plain.Replays watched n ↔ _ := (capture.follows path).replays_iff_recorded
  have replays (harmless : ∀ chunk ∈ capture.chunks.dropLast, Trace.Harmless chunk) :
      plain.Replays watched n :=
    start.2 (Trace.recorded_of_harmless (fun _ => isEntry_of_mem_tracedLines)
      capture.length_chunks harmless)
  refine ⟨replays, fun clear => replays fun chunk mem => ?_, fun unbarred replays => ?_⟩
  · have inside := List.infix_of_mem_flatten (List.dropLast_subset _ mem)
    exact Trace.harmless_of_clear fun tagged => clear (tagged.trans inside)
  · exact Trace.harmless_of_recorded (fun _ => isEntry_of_mem_tracedLines)
      (fun _ => exists_readFrame_of_mem_tracedLines) capture.length_chunks unbarred
      (start.1 replays)

def spelling (text : List Char) : List UInt8 :=
  text.flatMap (fun c => [0x82, 0, UInt8.ofNat c.toNat, 0x48, 0]) ++ [0x01]

theorem capture_replays_glued :
    let plain := loaded {} (spelling "TRACE:".toList)
    let chunks := List.replicate 11 [] ++ ["TRACE:".toList, []]
    ∃ capture : plain.Capture 13, capture.chunks = chunks ∧
      ((plain.compareAgainst "log" (.contents capture.text.toUTF8)).2.after 12).step.1 =
        .ok .halted := by
  intro plain chunks
  have printed : ∀ i ≤ 13, (plain.after i).console.written = plain.console.written ++
      (String.ofList ((chunks.take i).flatten ++
        if i < 12 then "TRACE:".toList.take (i / 2) else [])).toUTF8 := by
    decide +kernel
  have harmless : ∀ chunk ∈ chunks.dropLast, Trace.Harmless chunk := by
    have all : ∀ chunk ∈ chunks.dropLast, chunk = [] ∨ chunk = Trace.tag := by decide
    intro chunk mem
    rcases all chunk mem with rfl | rfl
    · exact ⟨[], 0, rfl, by decide⟩
    · exact ⟨[], 1, rfl, by decide⟩
  have halted : (plain.after 12).step.1 = .ok .halted := by decide +kernel
  let capture : plain.Capture 13 :=
    ⟨chunks, by decide +kernel, by decide +kernel, fun i le => ⟨_, printed i le⟩⟩
  obtain ⟨replays, _⟩ := capture_replays {} (spelling "TRACE:".toList) "log" 13 capture
  exact ⟨capture, rfl, ((replays harmless).results 12 (by decide)).trans halted⟩

/-- But one with a line of its own is taken for it. -/
theorem spelled_tag_mismatches :
    let plain := loaded {} (spelling "TRACE:\n".toList)
    let chunks := List.replicate 13 [] ++ ["TRACE:\n".toList, []]
    ∃ capture : plain.Capture 15, capture.chunks = chunks ∧
      (plain.after 14).step.1 = .ok .halted ∧
      ((plain.compareAgainst "log" (.contents capture.text.toUTF8)).2.after 14).step.1 =
        .error (.traceMismatch "TRACE:" "TRACE: 23 | 01 00 00 | 0A 00 00 00 00 00 00 F4") := by
  intro plain chunks
  have printed : ∀ i ≤ 15, (plain.after i).console.written = plain.console.written ++
      (String.ofList ((chunks.take i).flatten ++
        if i < 14 then "TRACE:\n".toList.take (i / 2) else [])).toUTF8 := by
    decide +kernel
  let capture : plain.Capture 15 :=
    ⟨chunks, by decide +kernel, by decide +kernel, fun i le => ⟨_, printed i le⟩⟩
  have length : (plain.tracedLines 14).length = 14 := by decide +kernel
  have tag : Trace.IsEntry Trace.tag :=
    ⟨by decide, List.prefix_refl _, Trace.isWord_tag.trimmed⟩
  have found := Trace.entries_interleave_late (fun _ => isEntry_of_mem_tracedLines)
    (List.ne_nil_of_length_pos (by rw [length]; decide)) ((plain.after 14).tracedLines 1)
    (Trace.tag ++ ['\n']) [[]]
  rw [length, ← tracedLines_add, List.append_assoc, List.singleton_append,
    tag.entries_append] at found
  have start := capture.follows "log"
  have mismatch := Follows.mismatches (found ▸ start) length (by decide +kernel)
  have line : (plain.after 14).traceLine = "TRACE: 23 | 01 00 00 | 0A 00 00 00 00 00 00 F4" := by
    decide +kernel
  rw [line] at mismatch
  exact ⟨capture, rfl, by decide +kernel, mismatch⟩

end ByteMachine.Machine
