import ByteMachine.Proofs.Text.Digits
import ByteMachine.Proofs.Trace.Spacing

/-! A trace line read back gives the state that it was written from. Only the program counter can be
too large for that, and no instruction is fetched from so far up. -/

namespace ByteMachine.Trace

open Text (hexPair spaced IsWord Trimmed spells_hexPair)

def digits (byte : UInt8) : List Char :=
  (hexPair byte.toNat).toList

theorem isWord_digits (byte : UInt8) : IsWord (digits byte) :=
  Text.isWord_hexPair byte.toNat

def pcText (processor : Processor) : List Char :=
  spaced [(hexPair processor.pc.toNat).toList] ++ [' ']

def bytesText (instruction : Instruction) : List Char :=
  spaced ((bytesOf instruction).toList.map digits) ++ [' ']

def registersText (processor : Processor) : List Char :=
  spaced (processor.registers.toList.map digits)

theorem toList_line (processor : Processor) (instruction : Instruction) :
    (line processor instruction).toList = tag ++
      (pcText processor ++ '|' :: (bytesText instruction ++ '|' :: registersText processor)) := by
  have registers : (String.join (processor.registers.toList.map fun value =>
      " " ++ hexPair value.toNat)).toList = registersText processor :=
    Text.toList_join_spaced (fun value : UInt8 => hexPair value.toNat) _
  simp only [line, String.toList_append, registers, String.toList_ofList]
  simp [pcText, bytesText, bytesOf, spaced, digits]

theorem not_mem_spaced_digits {c : Char} {bytes : List UInt8} (visible : c ≠ ' ')
    (h : c ∉ Text.hexAlphabet) : c ∉ spaced (bytes.map digits) := by
  apply Text.not_mem_spaced visible
  intro word mem inside
  obtain ⟨byte, _, rfl⟩ := List.mem_map.1 mem
  exact h (Text.mem_hexAlphabet_of_mem_hexPair inside)

theorem not_mem_pcText {c : Char} (visible : c ≠ ' ') (h : c ∉ Text.hexAlphabet)
    (processor : Processor) : c ∉ pcText processor := by
  intro mem
  rcases List.mem_append.1 mem with inside | blank
  · refine Text.not_mem_spaced visible (fun word among digit => ?_) inside
    rw [List.mem_singleton.1 among] at digit
    exact h (Text.mem_hexAlphabet_of_mem_hexPair digit)
  · exact visible (List.mem_singleton.1 blank)

theorem not_mem_bytesText {c : Char} (visible : c ≠ ' ') (h : c ∉ Text.hexAlphabet)
    (instruction : Instruction) : c ∉ bytesText instruction := by
  intro mem
  rcases List.mem_append.1 mem with inside | blank
  · exact not_mem_spaced_digits visible h inside
  · exact visible (List.mem_singleton.1 blank)

theorem lineFeed_not_mem_line (processor : Processor) (instruction : Instruction) :
    '\n' ∉ (line processor instruction).toList := by
  have visible : '\n' ≠ ' ' := by decide
  have other : '\n' ∉ Text.hexAlphabet := by decide
  rw [toList_line]
  simp only [List.mem_append, List.mem_cons, not_or]
  exact ⟨by decide, not_mem_pcText visible other processor, by decide,
    not_mem_bytesText visible other instruction, by decide, not_mem_spaced_digits visible other⟩

theorem registersText_eq (processor : Processor) :
    ∃ front last, registersText processor = front ++ digits last := by
  rcases List.eq_nil_or_concat processor.registers.toList with none | ⟨front, last, all⟩
  · have count := processor.registers.length_toList
    rw [none] at count
    cases count
  · refine ⟨spaced (front.map digits) ++ [' '], last, ?_⟩
    rw [registersText, all, List.concat_eq_append, List.map_append, List.map_singleton, spaced,
      List.flatMap_append, List.flatMap_singleton, List.append_assoc]
    rfl

theorem trimmed_line (processor : Processor) (instruction : Instruction) :
    Trimmed (line processor instruction).toList := by
  obtain ⟨front, last, registers⟩ := registersText_eq processor
  have whole := isWord_tag.trimmed.append
    (pcText processor ++ '|' :: (bytesText instruction ++ '|' :: front))
    (isWord_digits last).trimmed
  rw [toList_line, registers]
  simpa only [List.append_assoc, List.cons_append] using whole

theorem pcText_eq (processor : Processor) :
    pcText processor = ' ' :: ((hexPair processor.pc.toNat).toList ++ [' ']) := by
  rw [pcText, spaced, List.flatMap_singleton, List.cons_append]

theorem isNumeral_hexPair (n : Nat) : IsNumeral (hexPair n).toList :=
  ⟨n, spells_hexPair n⟩

theorem spelled_digits (bytes : List UInt8) : Spelled (bytes.map digits) bytes := by
  rw [Spelled, List.forall₂_map_left_iff, List.forall₂_same]
  exact fun byte _ => spells_hexPair byte.toNat

theorem group_digits {blanks : List Char} (blank : ∀ c ∈ blanks, Text.isBlank c)
    (bytes : List UInt8) : Group (bytes.map digits) (spaced (bytes.map digits) ++ blanks) :=
  (spelled_digits bytes).group (Text.spread_spaced blank _)

theorem laid_line (processor : Processor) (instruction : Instruction) :
    Laid (hexPair processor.pc.toNat).toList ((bytesOf instruction).toList.map digits)
      (processor.registers.toList.map digits) (line processor instruction).toList := by
  have space : ∀ c ∈ [' '], Text.isBlank c := List.forall_mem_singleton.2 (by decide)
  have groupPc : Group [(hexPair processor.pc.toNat).toList] (pcText processor) :=
    ⟨Text.spread_spaced space _, fun word mem =>
      List.mem_singleton.1 mem ▸ isNumeral_hexPair processor.pc.toNat⟩
  have none : ∀ c ∈ ([] : List Char), Text.isBlank c := nofun
  have groupRegisters := group_digits none processor.registers.toList
  rw [List.append_nil] at groupRegisters
  refine ⟨[], pcText processor, bytesText instruction, registersText processor, ?_, none, groupPc,
    group_digits space _, groupRegisters⟩
  rw [toList_line, List.nil_append]

theorem writes_line {processor : Processor} (small : processor.pc.toNat < 256)
    (instruction : Instruction) :
    Frame.Writes { pc := UInt8.ofNat processor.pc.toNat, instruction,
                   registers := processor.registers } (line processor instruction).toList := by
  refine ⟨_, _, _, laid_line processor instruction, ?_, spelled_digits _, spelled_digits _⟩
  rw [UInt8.toNat_ofNat_of_lt' small]
  exact spells_hexPair processor.pc.toNat

theorem readFrame_line {processor : Processor} (small : processor.pc.toNat < 256)
    (instruction : Instruction) :
    readFrame (line processor instruction).toList =
      .ok { pc := UInt8.ofNat processor.pc.toNat, instruction,
            registers := processor.registers } :=
  (writes_line small instruction).readFrame_eq

end ByteMachine.Trace
