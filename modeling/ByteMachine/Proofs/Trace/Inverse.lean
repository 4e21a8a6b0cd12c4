import ByteMachine.Proofs.Text.NumeralProblems
import ByteMachine.Proofs.Trace.Lockstep

/-! A trace line and the reading of frames undo each other, and a line whose program counter does
not fit in a byte is read as no frame at all. -/

namespace ByteMachine.Trace

open Text (Spread)

variable {processor : Processor} {instruction : Instruction}

theorem agree_iff {expected actual : List Char} :
    agree expected actual ↔
      ∃ frame, readFrame expected = .ok frame ∧ readFrame actual = .ok frame := by
  unfold agree
  cases readFrame expected <;> cases readFrame actual <;> simp [eq_comm]

theorem exists_shows (fits : processor.pc.toNat ≤ 255) (instruction : Instruction) :
    ∃ frame : Frame, frame.Shows processor instruction :=
  ⟨_, (shows_iff (Nat.lt_succ_of_le fits)).2 rfl⟩

theorem readFrame_line_large (large : 255 < processor.pc.toNat) (instruction : Instruction) :
    readFrame (line processor instruction).toList = .error .tooLarge := by
  obtain ⟨first, second, third, sections, trimmed, -, -⟩ :=
    (laid_line processor instruction).sections
  have past : Numeral.readByte 16 (Text.hexPair processor.pc.toNat).toList = .error .tooLarge := by
    rw [Numeral.readByte, Numeral.read_eq_tooLarge (by decide) (Text.spells_hexPair _) large]
    rfl
  rw [readFrame, sections]
  simp only [List.getD_cons_zero, trimmed, past]
  rfl

theorem readFrame_line_iff {frame : Frame} :
    readFrame (line processor instruction).toList = .ok frame ↔
      processor.pc.toNat ≤ 255 ∧ frame.Shows processor instruction := by
  rcases Nat.lt_or_ge 255 processor.pc.toNat with large | fits
  · rw [readFrame_line_large large]
    exact iff_of_false nofun fun shown => Nat.not_le_of_lt large shown.1
  · have small := Nat.lt_succ_of_le fits
    rw [readFrame_line small, shows_iff small, Except.ok.injEq, eq_comm]
    exact (and_iff_right fits).symm

theorem agree_line_line_iff (other : Processor) (following : Instruction) :
    agree (line processor instruction).toList (line other following).toList ↔
      processor.pc.toNat ≤ 255 ∧ processor.pc = other.pc ∧ instruction = following ∧
        processor.registers = other.registers := by
  simp only [agree_iff, readFrame_line_iff]
  constructor
  · rintro ⟨frame, ⟨fits, pc, shown, registers⟩, -, pc', shown', registers'⟩
    exact ⟨fits, pc.symm.trans pc', shown.symm.trans shown', registers.symm.trans registers'⟩
  · rintro ⟨fits, pc, rfl, registers⟩
    obtain ⟨frame, shows⟩ := exists_shows fits instruction
    exact ⟨frame, ⟨fits, shows⟩, pc ▸ fits, shows.1.trans pc, shows.2.1,
      shows.2.2.trans registers⟩

/-- A line is read as the state that it shows, and so is whatever else is a way to write that
state; two lines agree just if all they show is the same; and past the last byte nothing agrees
with a line. -/
theorem line_inverse (processor : Processor) (instruction : Instruction) :
    let written := (line processor instruction).toList
    (processor.pc.toNat ≤ 255 → ∃ frame : Frame, frame.Shows processor instruction ∧
      readFrame written = .ok frame ∧ frame.Writes written ∧
      ∀ text, frame.Writes text → readFrame text = .ok frame) ∧
    (∀ other following, agree written (line other following).toList ↔
      processor.pc.toNat ≤ 255 ∧ processor.pc = other.pc ∧ instruction = following ∧
        processor.registers = other.registers) ∧
    (255 < processor.pc.toNat → readFrame written = .error .tooLarge ∧
      ∀ text, ¬ agree text written ∧ ¬ agree written text) := by
  intro written
  refine ⟨fun fits => ?_, agree_line_line_iff, fun large => ?_⟩
  · have small := Nat.lt_succ_of_le fits
    exact ⟨_, (shows_iff small).2 rfl, readFrame_line small instruction,
      writes_line small instruction, fun _ writes => writes.readFrame_eq⟩
  · have unread := readFrame_line_large large instruction
    refine ⟨unread, fun text => ⟨fun agrees => ?_, fun agrees => ?_⟩⟩
    · obtain ⟨frame, -, read⟩ := agree_iff.1 agrees
      exact nomatch unread.symm.trans read
    · obtain ⟨frame, read, -⟩ := agree_iff.1 agrees
      exact nomatch unread.symm.trans read

theorem line_inverse_respaced :
    let processor : Processor := { pc := 0xAB, registers := #v[0, 1, 2, 3, 4, 5, 6, 0xF4] }
    let far : Processor := { pc := 300 }
    let text := "\u2003TRACE:\t0aB|82\u00a0001\u3000 fF| 0 1 2 3 4 5 6 0f4\n".toList
    let frame : Frame :=
      { pc := 0xAB, instruction := ⟨0x82, 1, 0xFF⟩, registers := processor.registers }
    processor.pc.toNat ≤ 255 ∧ frame.Shows processor ⟨0x82, 1, 0xFF⟩ ∧ frame.Writes text ∧
      readFrame text = .ok frame ∧ 255 < far.pc.toNat ∧
      readFrame (line far ⟨0, 0, 0⟩).toList = .error .tooLarge := by
  intro processor far text frame
  have fits : processor.pc.toNat ≤ 255 := by decide
  have shown : frame.Shows processor ⟨0x82, 1, 0xFF⟩ := by decide
  have far' : 255 < far.pc.toNat := by decide
  have spelled {list : List (List Char)} {bytes : List UInt8}
      (h : List.Forall₂ (fun word byte => Numeral.readByte 16 word = .ok byte ∧
        word.head? ≠ some '+') list bytes) : Spelled list bytes :=
    h.imp fun word byte ⟨read, sign⟩ => (Numeral.denotes_iff_spells sign).1
      ((Numeral.readByte_eq_ok_iff (by decide) (by decide)).1 read)
  have blank {gap : List Char} (h : gap.all Text.isBlank = true) : ∀ c ∈ gap, Text.isBlank c :=
    List.all_eq_true.1 h
  have writes : frame.Writes text := by
    have pc : Spelled [['0', 'a', 'B']] [0xAB] := spelled (by decide)
    have bytes : Spelled [['8', '2'], ['0', '0', '1'], ['f', 'F']] [0x82, 1, 0xFF] :=
      spelled (by decide)
    have registers : Spelled [['0'], ['1'], ['2'], ['3'], ['4'], ['5'], ['6'], ['0', 'f', '4']]
      [0, 1, 2, 3, 4, 5, 6, 0xF4] := spelled (by decide)
    have first : Spread [['0', 'a', 'B']] ['\t', '0', 'a', 'B'] :=
      ⟨['\t'], ['0', 'a', 'B'] ++ [] ++ [], rfl, blank rfl, .cons nofun nofun .nil⟩
    have second : Spread [['8', '2'], ['0', '0', '1'], ['f', 'F']]
        ['8', '2', '\u00a0', '0', '0', '1', '\u3000', ' ', 'f', 'F'] :=
      ⟨[], ['8', '2'] ++ ['\u00a0'] ++
          (['0', '0', '1'] ++ ['\u3000', ' '] ++ (['f', 'F'] ++ [] ++ [])), rfl, nofun,
        .cons (blank rfl) nofun (.cons (blank rfl) nofun (.cons nofun nofun .nil))⟩
    have third := Text.spread_spaced (@blank ['\n'] rfl)
      [['0'], ['1'], ['2'], ['3'], ['4'], ['5'], ['6'], ['0', 'f', '4']]
    refine ⟨_, _, _, ⟨['\u2003'], _, _, _, ?_, blank rfl, pc.group first, bytes.group second,
      registers.group third⟩, ?_, bytes, registers⟩
    · decide
    · cases pc
      assumption
  obtain ⟨other, shown', -, -, reads⟩ := (line_inverse processor ⟨0x82, 1, 0xFF⟩).1 fits
  have same : other = frame :=
    ((shows_iff (by decide)).1 shown').trans ((shows_iff (by decide)).1 shown).symm
  exact ⟨fits, shown, writes, same ▸ reads text (same ▸ writes), far',
    ((line_inverse far ⟨0, 0, 0⟩).2.2 far').1⟩

end ByteMachine.Trace
