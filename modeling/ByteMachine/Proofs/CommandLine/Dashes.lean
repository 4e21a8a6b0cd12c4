import ByteMachine.CommandLine.Dashes

/-! Options written with dashes are read as an option parser is documented to read them. -/

namespace ByteMachine.CommandLine

variable {switch : Switch} {arguments : List String} {read : Arguments}

namespace Dashes

theorem readLetters_letter (plain : switch.takesValue = false) :
    readLetters [switch.letter] = .ok { given := [{ switch }] } := by
  rw [readLetters, Switch.ofLetter?_letter]
  simp only [plain, Bool.false_eq_true, if_false, readLetters]
  rfl

theorem readArguments_flag (plain : switch.takesValue = false) (arguments : List String) :
    readArguments (switch.flag :: arguments) = give [{ switch }] <$> readArguments arguments := by
  have letters : switch.flag.toList = ['-', switch.letter] := String.toList_ofList
  have single : switch.letter ≠ '-' := by cases switch <;> decide
  rw [readArguments, letters]
  split
  · rename_i dashes
    exact absurd (List.cons.inj (List.cons.inj dashes).2).1 single
  · rename_i dashes
    exact absurd (List.cons.inj (List.cons.inj dashes).2).1 single
  · rename_i dashes
    cases dashes
    rw [readLetters_letter plain]
    exact readArguments.settle.eq_1 ..
  · rename_i other
    exact absurd rfl (other _ _)

theorem rejectRepeated_eq_ok_iff {all : Arguments} :
    rejectRepeated all = .ok read ↔ all = read ∧ repeated? read = none := by
  unfold rejectRepeated
  cases found : repeated? all with
  | some switch =>
    constructor
    · rintro ⟨⟩
    · rintro ⟨rfl, once⟩
      cases found.symm.trans once
  | none =>
    constructor
    · rintro ⟨⟩
      exact ⟨rfl, found⟩
    · rintro ⟨rfl, -⟩
      rfl

theorem parse_eq_ok_iff :
    parse arguments = .ok read ↔ readArguments arguments = .ok read ∧ repeated? read = none := by
  unfold parse
  cases readArguments arguments with
  | error problem =>
    constructor
    · rintro ⟨⟩
    · rintro ⟨⟨⟩, -⟩
  | ok all =>
    rw [Except.ok.injEq]
    exact rejectRepeated_eq_ok_iff

theorem repeated?_eq_none_iff :
    repeated? read = none ↔ ∀ switch, read.given.countP (·.switch = switch) ≤ 1 := by
  rw [repeated?, List.find?_eq_none]
  simp only [decide_eq_true_eq, Nat.not_lt]
  exact ⟨fun once switch => once switch (Switch.mem_all switch), fun once switch _ => once switch⟩

theorem repeated?_flag (once : repeated? read = none) (absent : read.has switch = false) :
    repeated? { read with given := { switch } :: read.given } = none := by
  rw [repeated?_eq_none_iff] at once ⊢
  intro other
  rw [List.countP_cons]
  have before := once other
  split
  · rename_i same
    have none : read.given.countP (·.switch = other) = 0 := by
      rw [← of_decide_eq_true same, List.countP_eq_zero]
      rwa [Arguments.has, List.any_eq_false] at absent
    omega
  · exact before

end Dashes

theorem OptionParser.parse_dashes_eq_ok_iff :
    OptionParser.dashes.parse arguments = .ok read ↔ Dashes.parse arguments = .ok read := by
  unfold dashes
  dsimp only
  cases Dashes.parse arguments with
  | error problem =>
    constructor
    · rintro ⟨⟩
    · rintro ⟨⟩
  | ok all =>
    constructor
    · rintro ⟨⟩
      rfl
    · rintro ⟨⟩
      rfl

theorem OptionParser.documented_dashes : OptionParser.dashes.Documented where
  flag switch plain arguments read parsed absent := by
    obtain ⟨all, once⟩ := Dashes.parse_eq_ok_iff.1 (parse_dashes_eq_ok_iff.1 parsed)
    refine parse_dashes_eq_ok_iff.2 (Dashes.parse_eq_ok_iff.2 ⟨?_, ?_⟩)
    · rw [Dashes.readArguments_flag plain, all]
      rfl
    · exact Dashes.repeated?_flag once absent

end ByteMachine.CommandLine
