import Mathlib.Data.List.Nodup
import ByteMachine.Proofs.Text.Digits
import ByteMachine.Semantics.Execution

/-! The assembly text of an instruction says all that it does. The name in front of the first space
belongs to a single opcode, the operands behind it are told apart by their commas, and a byte that
the text leaves out is one that the instruction never looks at. -/

namespace ByteMachine

namespace Opcode

variable {a b : Opcode}

theorem mnemonic_injective (h : a.mnemonic = b.mnemonic) : a = b :=
  have distinct : (all.map mnemonic).Nodup := by decide +kernel
  List.inj_on_of_nodup_map distinct (mem_all a) (mem_all b) h

theorem mnemonic_letters (opcode : Opcode) : ∀ c ∈ opcode.mnemonic.toList, c.isUpper := by
  have each : all.all (fun opcode => opcode.mnemonic.toList.all Char.isUpper) = true := by
    decide +kernel
  exact List.all_eq_true.1 (List.all_eq_true.1 each opcode (mem_all opcode))

end Opcode

namespace Instruction

open Text (Stops)

variable {a b : Instruction} {x y : UInt8}

theorem registerOperand_injective (h : registerOperand x = registerOperand y) : x = y :=
  UInt8.toNat_inj.1 (Text.decimal_injective ((String.append_right_inj "R").1 h))

theorem literalOperand_injective (h : literalOperand x = literalOperand y) : x = y :=
  UInt8.toNat_inj.1 (Text.hexPair_injective ((String.append_right_inj "0x").1 h))

theorem comma_not_mem_registerOperand (x : UInt8) : ',' ∉ (registerOperand x).toList := by
  rw [registerOperand, String.toList_append, List.mem_append, not_or]
  exact ⟨by decide, fun digit => absurd (Text.isDigit_of_mem_decimal digit) (by decide)⟩

theorem comma_not_mem_literalOperand (x : UInt8) : ',' ∉ (literalOperand x).toList := by
  rw [literalOperand, Text.hexPairLiteral, String.toList_append, List.mem_append, not_or]
  exact ⟨by decide, fun digit =>
    absurd (Text.mem_hexAlphabet_of_mem_hexPair digit) (by decide)⟩

theorem comma_not_mem_operands (opcode : Opcode) (x y : UInt8) :
    ∀ operand ∈ operands opcode x y, ',' ∉ operand.toList := by
  cases opcode with
  | nop | hlt | ret => exact nofun
  | ldi =>
    exact List.forall_mem_cons.2 ⟨comma_not_mem_registerOperand x,
      List.forall_mem_singleton.2 (comma_not_mem_literalOperand y)⟩
  | st =>
    exact List.forall_mem_cons.2 ⟨comma_not_mem_literalOperand x,
      List.forall_mem_singleton.2 (comma_not_mem_literalOperand y)⟩
  | ld | binary | cmp =>
    exact List.forall_mem_cons.2 ⟨comma_not_mem_registerOperand x,
      List.forall_mem_singleton.2 (comma_not_mem_registerOperand y)⟩
  | push | pop | prn | pra | call | jmp | branch | unary =>
    exact List.forall_mem_singleton.2 (comma_not_mem_registerOperand x)

def title (instruction : Instruction) : String :=
  match instruction.opcode? with
  | none => ".byte"
  | some opcode => opcode.mnemonic

def shown (instruction : Instruction) : List String :=
  match instruction.opcode? with
  | none => [literalOperand instruction.code]
  | some opcode => operands opcode instruction.first instruction.second

theorem space_not_mem_title (a : Instruction) : ∀ c ∈ a.title.toList, (c != ' ') = true := by
  unfold title
  split
  · have byte : ".byte".toList.all (· != ' ') = true := by decide
    exact List.all_eq_true.1 byte
  · rename_i opcode _
    intro c mem
    have letter := opcode.mnemonic_letters c mem
    rw [bne_iff_ne]
    rintro rfl
    cases letter

theorem comma_not_mem_shown (a : Instruction) : ∀ operand ∈ a.shown, ',' ∉ operand.toList := by
  unfold shown
  split
  · exact List.forall_mem_singleton.2 (comma_not_mem_literalOperand a.code)
  · exact comma_not_mem_operands _ _ _

def listed (operands : List String) : List Char :=
  if operands = [] then [] else ' ' :: [','].intercalate (operands.map String.toList)

theorem stops_listed (operands : List String) : Stops (· != ' ') (listed operands) := by
  intro c first
  unfold listed at first
  split at first
  · cases first
  · cases first
    rfl

theorem listed_injective {ls rs : List String} (plainLeft : ∀ operand ∈ ls, ',' ∉ operand.toList)
    (plainRight : ∀ operand ∈ rs, ',' ∉ operand.toList) (h : listed ls = listed rs) : ls = rs := by
  have recovered (operands : List String) (plain : ∀ operand ∈ operands, ',' ∉ operand.toList)
      (some : operands ≠ []) :
      ([','].intercalate (operands.map String.toList)).splitOn ',' =
        operands.map String.toList :=
    List.splitOn_intercalate ',' (List.forall_mem_map.2 plain) (by simpa using some)
  unfold listed at h
  split_ifs at h with noneLeft noneRight noneRight
  · rw [noneLeft, noneRight]
  · have texts := congrArg (List.splitOn ',') (List.cons.inj h).2
    rw [recovered ls plainLeft noneLeft, recovered rs plainRight noneRight] at texts
    exact List.map_injective_iff.2 (fun _ _ => String.toList_inj.1) texts

theorem toList_disassemble (a : Instruction) :
    a.disassemble.toList = a.title.toList ++ listed a.shown := by
  cases known : a.opcode? with
  | none => simp [disassemble, title, shown, listed, known]
  | some opcode =>
    simp only [disassemble, title, shown, known]
    split
    · rename_i none
      rw [none, listed, if_pos rfl, List.append_nil]
    · rename_i some
      rw [listed, if_neg some]
      simp

theorem parts_of_disassemble (same : a.disassemble = b.disassemble) :
    a.title = b.title ∧ a.shown = b.shown := by
  have texts := congrArg String.toList same
  rw [toList_disassemble, toList_disassemble] at texts
  have titles := congrArg (List.takeWhile (· != ' ')) texts
  have lists := congrArg (List.dropWhile (· != ' ')) texts
  rw [Text.takeWhile_append_of_stops (space_not_mem_title a) (stops_listed _),
    Text.takeWhile_append_of_stops (space_not_mem_title b) (stops_listed _)] at titles
  rw [Text.dropWhile_append_of_stops (space_not_mem_title a) (stops_listed _),
    Text.dropWhile_append_of_stops (space_not_mem_title b) (stops_listed _)] at lists
  exact ⟨String.toList_inj.1 titles,
    listed_injective (comma_not_mem_shown a) (comma_not_mem_shown b) lists⟩

theorem mnemonic_ne_byte (opcode : Opcode) : opcode.mnemonic ≠ ".byte" := by
  intro same
  have letter := opcode.mnemonic_letters '.' (same ▸ by decide)
  cases letter

theorem code_eq_of_parts (titles : a.title = b.title) (operands : a.shown = b.shown) :
    a.code = b.code := by
  unfold title at titles
  unfold shown at operands
  cases first : a.opcode? with
  | none =>
    cases second : b.opcode? with
    | none =>
      simp only [first, second] at operands
      exact literalOperand_injective (List.cons.inj operands).1
    | some opcode =>
      simp only [first, second] at titles
      exact absurd titles.symm (mnemonic_ne_byte opcode)
  | some opcode =>
    cases second : b.opcode? with
    | none =>
      simp only [first, second] at titles
      exact absurd titles (mnemonic_ne_byte opcode)
    | some other =>
      simp only [first, second] at titles
      obtain rfl := Opcode.mnemonic_injective titles
      rw [← Opcode.toByte_of_ofByte? first, Opcode.toByte_of_ofByte? second]

end Instruction

theorem Opcode.perform_congr {opcode : Opcode} {x y x' y' : UInt8}
    (same : Instruction.operands opcode x y = Instruction.operands opcode x' y') :
    opcode.perform x y = opcode.perform x' y' := by
  open Instruction in
  cases opcode with
  | nop | hlt | ret => rfl
  | push | pop | prn | pra | call | jmp | branch | unary =>
    obtain rfl := registerOperand_injective (List.singleton_inj.1 same)
    rfl
  | ldi =>
    obtain ⟨first, rest⟩ := List.cons.inj same
    rw [registerOperand_injective first, literalOperand_injective (List.singleton_inj.1 rest)]
  | st =>
    obtain ⟨first, rest⟩ := List.cons.inj same
    rw [literalOperand_injective first, literalOperand_injective (List.singleton_inj.1 rest)]
  | ld | binary | cmp =>
    obtain ⟨first, rest⟩ := List.cons.inj same
    rw [registerOperand_injective first, registerOperand_injective (List.singleton_inj.1 rest)]

namespace Instruction

variable {a b : Instruction}

theorem perform_congr (code : a.code = b.code) (operands : a.shown = b.shown) :
    a.perform = b.perform := by
  have decoded : b.opcode? = a.opcode? := by rw [opcode?, opcode?, code]
  unfold shown at operands
  unfold perform opcode
  rw [decoded] at operands ⊢
  cases known : a.opcode? with
  | none =>
    rw [code]
    rfl
  | some opcode =>
    simp only [known] at operands
    have same := Opcode.perform_congr operands
    funext hardware
    change opcode.perform a.first a.second hardware = opcode.perform b.first b.second hardware
    rw [same]

theorem execute_congr (performs : a.perform = b.perform) (core : Core) (console : Console) :
    a.execute core console = b.execute core console := by
  rw [execute, execute, performs]

def operandCount (instruction : Instruction) : Nat :=
  match instruction.opcode? with
  | none => 0
  | some opcode => (operands opcode instruction.first instruction.second).length

theorem operands_of_length_le_one {opcode : Opcode} {x y : UInt8}
    (few : (operands opcode x y).length ≤ 1) (other : UInt8) :
    operands opcode x other = operands opcode x y := by
  cases opcode with
  | ldi | ld | st | binary | cmp => exact absurd few (Nat.not_succ_le_self 1)
  | _ => rfl

theorem operands_of_length_eq_zero {opcode : Opcode} {x y : UInt8}
    (none : (operands opcode x y).length = 0) (other : UInt8) :
    operands opcode other y = operands opcode x y := by
  cases opcode with
  | nop | hlt | ret => rfl
  | _ => cases none

theorem shown_of_operandCount_le_one (few : a.operandCount ≤ 1) (byte : UInt8) :
    shown { a with second := byte } = a.shown := by
  simp only [operandCount, shown, opcode?] at few ⊢
  cases known : Opcode.ofByte? a.code with
  | none => rfl
  | some opcode =>
    simp only [known] at few
    exact operands_of_length_le_one few byte

theorem shown_of_operandCount_eq_zero (none : a.operandCount = 0) (byte : UInt8) :
    shown { a with first := byte } = a.shown := by
  simp only [operandCount, shown, opcode?] at none ⊢
  cases known : Opcode.ofByte? a.code with
  | none => rfl
  | some opcode =>
    simp only [known] at none
    exact operands_of_length_eq_zero none byte

/-- Instructions with the same text have the same opcode byte, known or not, and do the same
wherever they are executed. An operand byte that the text leaves out can be anything. -/
theorem disassembly_determines_execution :
    (∀ a b : Instruction, a.disassemble = b.disassemble →
      a.code = b.code ∧ ∀ core console, a.execute core console = b.execute core console) ∧
    ∀ (a : Instruction) byte core console,
      (a.operandCount ≤ 1 →
        execute { a with second := byte } core console = a.execute core console) ∧
      (a.operandCount = 0 →
        execute { a with first := byte } core console = a.execute core console) := by
  constructor
  · intro a b same
    obtain ⟨titles, operands⟩ := parts_of_disassemble same
    have code := code_eq_of_parts titles operands
    exact ⟨code, execute_congr (perform_congr code operands)⟩
  · intro a byte core console
    constructor
    · intro few
      have operands := shown_of_operandCount_le_one few byte
      exact execute_congr (@perform_congr { a with second := byte } a rfl operands) core console
    · intro none
      have operands := shown_of_operandCount_eq_zero none byte
      exact execute_congr (@perform_congr { a with first := byte } a rfl operands) core console

theorem disassembly_determines_execution_padded :
    (disassemble ⟨0x11, 1, 2⟩ = disassemble ⟨0x11, 3, 4⟩ ∧
      execute ⟨0x11, 1, 2⟩ {} {} = execute ⟨0x11, 3, 4⟩ {} {}) ∧
    operandCount ⟨0x54, 7, 1⟩ = 1 ∧ execute ⟨0x54, 7, 9⟩ {} {} = execute ⟨0x54, 7, 1⟩ {} {} := by
  have same : disassemble ⟨0x11, 1, 2⟩ = disassemble ⟨0x11, 3, 4⟩ := by decide +kernel
  have few : operandCount ⟨0x54, 7, 1⟩ = 1 := by decide +kernel
  have executes := (disassembly_determines_execution.1 _ _ same).2
  have pads := disassembly_determines_execution.2 ⟨0x54, 7, 1⟩ 9 {} {}
  exact ⟨⟨same, executes {} {}⟩, few, pads.1 (Nat.le_of_eq few)⟩

end Instruction
end ByteMachine
