import ByteMachine.Proofs.Text.Digits
import ByteMachine.Proofs.Text.LineCut
import ByteMachine.State.Processor

/-! The description of a processor, line by line: it shows the program counter, every register and
the flags, so that no two processors have the same one. -/

namespace ByteMachine.Processor

open Text (IsHexLiteral)

def flagShown (processor : Processor) (bit : Nat) : String :=
  if processor.flags.toNat.testBit bit then "SET" else "UNSET"

/-- The lines of a description, given what stands for the numbers in them. -/
def shownLines (processor : Processor) (pc top flags : String) (registers : Register → String) :
    List String :=
  ["",
    "CPU State:",
    "    Program Counter: " ++ pc,
    "    Stack Pointer:   " ++ top] ++
  (List.finRange 8).map (fun register : Register =>
    "    R" ++ toString register.val ++ ":              " ++ registers register) ++
  ["",
    "Flags Register: " ++ flags,
    "    Equal:   " ++ processor.flagShown 0,
    "    Greater: " ++ processor.flagShown 1,
    "    Less:    " ++ processor.flagShown 2]

/-- The text is a description of the processor. -/
def DescribedBy (processor : Processor) (text : String) : Prop :=
  ∃ pc top flags registers,
    IsHexLiteral 1 pc processor.pc.toNat ∧
    IsHexLiteral 1 top (processor.get .stackPointer).toNat ∧
    IsHexLiteral 1 flags processor.flags.toNat ∧
    (∀ register, IsHexLiteral 1 (registers register) (processor.get register).toNat) ∧
    text = String.join ((processor.shownLines pc top flags registers).map (· ++ "\n"))

theorem flagName_eq (processor : Processor) :
    flagName processor.isEqual = processor.flagShown 0 ∧
      flagName processor.isGreater = processor.flagShown 1 ∧
      flagName processor.isLess = processor.flagShown 2 := by
  have bits : ∀ n < 256, (UInt8.ofNat n &&& equalBit == equalBit) = n.testBit 0 ∧
      (UInt8.ofNat n &&& greaterBit == greaterBit) = n.testBit 1 ∧
      (UInt8.ofNat n &&& lessBit == lessBit) = n.testBit 2 := by decide +kernel
  obtain ⟨equal, greater, less⟩ := bits processor.flags.toNat processor.flags.toNat_lt
  rw [UInt8.ofNat_toNat] at equal greater less
  refine ⟨?_, ?_, ?_⟩
  · rw [isEqual, equal, flagName, flagShown]
  · rw [isGreater, greater, flagName, flagShown]
  · rw [isLess, less, flagName, flagShown]

theorem describedBy_describe (processor : Processor) :
    processor.DescribedBy processor.describe := by
  obtain ⟨equal, greater, less⟩ := processor.flagName_eq
  have literal := Text.isHexLiteral_hexLiteral
  refine ⟨Text.hexLiteral processor.pc.toNat, Text.hexLiteral processor.stackTop.toNat,
    Text.hexLiteral processor.flags.toNat,
    fun register => Text.hexLiteral (processor.get register).toNat, literal _, literal _,
    literal _, fun register => literal _, ?_⟩
  have title : "\nCPU State:\n" = "\n" ++ ("CPU State:" ++ "\n") := by decide
  have flags : "\nFlags Register: " = "\n" ++ "Flags Register: " := by decide
  have rows : (List.finRange 8).map processor.registerRow = ((List.finRange 8).map
      fun register : Register => "    R" ++ toString register.val ++ ":              " ++
        Text.hexLiteral (processor.get register).toNat).map (· ++ "\n") := by
    rw [List.map_map]
    rfl
  unfold describe
  simp only [equal, greater, less, rows, title, flags, shownLines, List.map_append, List.map_cons,
    List.map_nil, String.join_append, String.join_cons, String.join_nil, String.append_assoc,
    String.append_empty, String.empty_append]

variable {processor other : Processor} {text : String}

def OnOneLine (text : String) : Prop :=
  ∀ c ∈ text.toList, c ≠ '\n' ∧ c ≠ '\r'

instance : DecidablePred OnOneLine :=
  fun text => List.decidableBAll (fun c => c ≠ '\n' ∧ c ≠ '\r') text.toList

theorem OnOneLine.append {front back : String} (h : OnOneLine front) (h' : OnOneLine back) :
    OnOneLine (front ++ back) := by
  intro c mem
  rw [String.toList_append] at mem
  exact (List.mem_append.1 mem).elim (h c) (h' c)

theorem onOneLine_literal {width n : Nat} (h : IsHexLiteral width text n) : OnOneLine text := by
  have digits : OnOneLine (String.ofList Text.hexAlphabet) := by decide
  rw [OnOneLine, String.toList_ofList] at digits
  obtain ⟨written, rfl, -, hex, -⟩ := h
  refine OnOneLine.append (by decide) fun c mem => digits c (hex c ?_)
  rwa [String.toList_ofList] at mem

theorem onOneLine_flagShown (processor : Processor) (bit : Nat) :
    OnOneLine (processor.flagShown bit) := by
  unfold flagShown
  split <;> decide

theorem onOneLine_toString (n : Nat) : OnOneLine (toString n) := by
  intro c mem
  have mem : c ∈ (Text.decimal n).toList := mem
  have digit := Text.isDigit_of_mem_decimal mem
  constructor <;> rintro rfl <;> exact absurd digit (by decide)

theorem onOneLine_shownLines (processor : Processor) {pc top flags : String}
    {registers : Register → String}
    (first : OnOneLine pc) (second : OnOneLine top) (last : OnOneLine flags)
    (each : ∀ register, OnOneLine (registers register)) :
    ∀ row ∈ processor.shownLines pc top flags registers, OnOneLine row := by
  have names (register : Register) :
      OnOneLine ("    R" ++ toString register.val ++ ":              ") :=
    .append (.append (by decide) (onOneLine_toString register)) (by decide)
  simp only [shownLines, List.forall_mem_append, List.forall_mem_cons, List.forall_mem_map]
  refine ⟨⟨⟨by decide, by decide, .append (by decide) first, .append (by decide) second, nofun⟩,
    fun register _ => (names register).append (each register)⟩, by decide, ?_, ?_, ?_, ?_, nofun⟩
  · exact .append (by decide) last
  all_goals exact .append (by decide) (onOneLine_flagShown processor _)

theorem lines_join {rows : List String} (plain : ∀ row ∈ rows, OnOneLine row) :
    Text.lines (String.join (rows.map (· ++ "\n"))).toList = rows.map String.toList := by
  have cut : (String.join (rows.map (· ++ "\n"))).toList =
      (rows.map String.toList).flatMap (· ++ ['\n']) := by
    have ended (row : String) : (row ++ "\n").toList = row.toList ++ ['\n'] :=
      String.toList_append
    simp only [String.toList_join, List.flatMap_map, ended]
  rw [cut]
  refine Text.lines_flatMap (List.forall_mem_map.2 fun row mem fed => ?_)
    (List.forall_mem_map.2 fun row mem last => ?_)
  · exact (plain row mem _ fed).1 rfl
  · exact (plain row mem _ (List.mem_of_getLast? last)).2 rfl

/-- No two processors are described alike. -/
theorem DescribedBy.unique (h : processor.DescribedBy text) (h' : other.DescribedBy text) :
    processor = other := by
  obtain ⟨pc, top, flags, registers, isPc, isTop, isFlags, isRegister, rfl⟩ := h
  obtain ⟨pc', top', flags', registers', isPc', isTop', isFlags', isRegister', same⟩ := h'
  have rows := lines_join (onOneLine_shownLines processor
    (onOneLine_literal isPc) (onOneLine_literal isTop) (onOneLine_literal isFlags)
    fun register => onOneLine_literal (isRegister register))
  have rows' := lines_join (onOneLine_shownLines other
    (onOneLine_literal isPc') (onOneLine_literal isTop') (onOneLine_literal isFlags')
    fun register => onOneLine_literal (isRegister' register))
  rw [same, rows'] at rows
  have alike := List.map_injective_iff.2 (fun _ _ => String.toList_injective) rows
  obtain ⟨front, back⟩ := List.append_inj' alike rfl
  obtain ⟨front, middle⟩ := List.append_inj' front (by simp only [List.length_map])
  simp only [List.cons.injEq, String.append_right_inj, and_true, true_and] at front back
  obtain ⟨rfl, -⟩ := front
  obtain ⟨rfl, -⟩ := back
  have all (register : Register) : registers' register = registers register :=
    (String.append_right_inj _).1 (List.map_inj_left.1 middle register (List.mem_finRange _))
  refine ext_get (UInt64.toNat_inj.1 (isPc.unique isPc')) (fun register => ?_)
    (UInt8.toNat_inj.1 (isFlags.unique isFlags'))
  exact UInt8.toNat_inj.1 ((isRegister register).unique (all register ▸ isRegister' register))

end ByteMachine.Processor
