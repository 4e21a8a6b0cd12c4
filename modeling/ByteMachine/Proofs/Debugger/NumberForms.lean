import ByteMachine.Debugger.Arguments
import ByteMachine.Proofs.Text.LowerCase
import ByteMachine.Proofs.Text.NumeralProblems

/-! Which words stand for a number, told from the word as it was typed, and what is wrong with every
other word. Letter case makes no difference, and nothing outside ASCII is ever taken for a digit or
a mark, whatever it becomes in lower case. -/

namespace ByteMachine

namespace Numeral

open Text (IsForeign Lowers)

variable {radix limit value digit : Nat} {c : Char} {text lowered : List Char}

theorem IsDigit.ascii (small : radix ≤ 16) (h : IsDigit radix c digit) : c.toNat < 128 := by
  have known : ∀ d < 16, d.digitChar.toNat < 128 ∧ d.digitChar.toUpper.toNat < 128 := by decide
  obtain ⟨bound, shown⟩ := h
  obtain ⟨lower, upper⟩ := known digit (by omega)
  rcases shown with rfl | rfl
  · exact lower
  · exact upper

theorem not_isDigit_of_foreign (small : radix ≤ 16) (foreign : IsForeign c) :
    ¬ IsDigit radix c digit := by
  have known : ∀ d < 16, (d.digitChar ≠ 'k' ∧ d.digitChar.toUpper ≠ 'k') ∧
      d.digitChar ≠ 'i' ∧ d.digitChar.toUpper ≠ 'i' := by decide
  intro shown
  obtain ⟨⟨notK, notK'⟩, notI, notI'⟩ := known digit (Nat.lt_of_lt_of_le shown.1 small)
  rcases foreign with outside | rfl | rfl
  · exact absurd (shown.ascii small) (Nat.not_lt_of_le outside)
  · exact shown.2.elim notK.symm notK'.symm
  · exact shown.2.elim notI.symm notI'.symm

theorem isDigit_toLower_iff (small : radix ≤ 16) (inside : c.toNat < 128) :
    IsDigit radix c.toLower digit ↔ IsDigit radix c digit := by
  have known : ∀ d < 16, d.digitChar.toLower = d.digitChar ∧
      d.digitChar.toUpper.toLower = d.digitChar ∧
      d.digitChar.toUpper.toUpper = d.digitChar.toUpper := by decide
  refine and_congr_right fun bound => ?_
  obtain ⟨lower, lower', upper⟩ := known digit (by omega)
  constructor
  · rintro (shown | shown) <;> rcases Text.eq_or_eq_toUpper inside with same | same <;>
      rw [shown] at same
    · exact .inl same
    · exact .inr same
    · exact .inr same
    · exact .inr (same.trans upper)
  · rintro (rfl | rfl)
    · exact .inl lower
    · exact .inl lower'

theorem digitValue?_toLower (small : radix ≤ 16) (inside : c.toNat < 128) :
    digitValue? radix c.toLower = digitValue? radix c := by
  refine Option.ext fun digit => ?_
  rw [digitValue?_eq_some_iff small, digitValue?_eq_some_iff small,
    isDigit_toLower_iff small inside]

theorem digitValue?_of_foreign (small : radix ≤ 16) (foreign : IsForeign c) :
    digitValue? radix c = none :=
  (digitValue?_eq_none_iff small).2 fun _ => not_isDigit_of_foreign small foreign

theorem readDigits_lowers (small : radix ≤ 16) (h : Lowers text lowered) :
    readDigits radix limit value lowered = readDigits radix limit value text := by
  induction text generalizing lowered value with
  | nil => rw [h.eq_nil_iff.2 rfl]
  | cons c text ih =>
    rcases h.cons_cases with ⟨inside, rest, rfl, later⟩ | ⟨outside, d, rest, rfl, foreign⟩
    · rw [readDigits, readDigits, digitValue?_toLower small inside]
      simp only [ih later]
    · rw [readDigits, readDigits, digitValue?_of_foreign small foreign,
        digitValue?_of_foreign small (.inl outside)]

theorem head?_ne_plus_of_lowers (h : Lowers text lowered) (unsigned : text.head? ≠ some '+') :
    lowered.head? ≠ some '+' := by
  intro first
  obtain ⟨rest, rfl⟩ := List.head?_eq_some_iff.1 first
  obtain ⟨c, _, rfl, inside, plus, -⟩ := h.of_cons (by decide)
  rcases Text.eq_or_eq_toUpper inside with same | same <;> rw [plus] at same
  · exact unsigned (congrArg some same)
  · exact unsigned (congrArg some same)

theorem read_lowers (small : radix ≤ 16) (h : Lowers text lowered) :
    read radix limit lowered = read radix limit text := by
  by_cases signed : text.head? = some '+'
  · obtain ⟨digits, rfl⟩ := List.head?_eq_some_iff.1 signed
    obtain ⟨digits', rfl, later⟩ := h.of_cons_ascii (by decide)
    by_cases visible : digits = []
    · rw [later.eq_nil_iff.2 visible, visible]
      rfl
    · have visible' : digits' ≠ [] := fun none => visible (later.eq_nil_iff.1 none)
      rw [read_plus visible, ← readDigits_lowers small later]
      exact read_plus visible'
  · by_cases visible : text = []
    · rw [h.eq_nil_iff.2 visible, visible]
    · have visible' : lowered ≠ [] := fun none => visible (h.eq_nil_iff.1 none)
      rw [read_unsigned visible signed, read_unsigned visible' (head?_ne_plus_of_lowers h signed),
        readDigits_lowers small h]

theorem readWord_lowers (small : radix ≤ 16) (h : Lowers text lowered) :
    readWord radix lowered = readWord radix text := by
  rw [readWord, read_lowers small h, readWord]

theorem Denotes.ascii (small : radix ≤ 16) {n : Nat} (h : Denotes radix text n) (mem : c ∈ text) :
    c.toNat < 128 := by
  have digits {written : List Char} (spelled : Spells radix written n) (mem : c ∈ written) :
      c.toNat < 128 := by
    obtain ⟨digit, shown⟩ := spelled.exists_isDigit mem
    exact shown.ascii small
  obtain ⟨written, rfl | rfl, spelled⟩ := h
  · exact digits spelled mem
  · rcases List.mem_cons.1 mem with rfl | mem
    · decide
    · exact digits spelled mem

theorem spells_of_toLower (small : radix ≤ 16) {n : Nat}
    (h : Spells radix (text.map Char.toLower) n) : Spells radix text n := by
  obtain ⟨visible, digits, written, total⟩ := h
  refine ⟨by simpa using visible, digits, ?_, total⟩
  rw [List.forall₂_map_left_iff] at written
  refine written.imp fun c digit shown => ?_
  rcases Nat.lt_or_ge c.toNat 128 with inside | outside
  · exact (isDigit_toLower_iff small inside).1 shown
  · rwa [Text.toLower_of_outside outside] at shown

theorem Spells.zeros_append (positive : 0 < radix) {n : Nat} (h : Spells radix text n)
    (zeros : Nat) : Spells radix (List.replicate zeros '0' ++ text) n := by
  induction zeros with
  | zero => exact h
  | succ zeros ih => exact ih.zero_cons positive

end Numeral

namespace Debugger

open Text (IsForeign Lowers)

variable {c : Char} {n radix : Nat} {text lowered digits mark : List Char}

inductive Mark : Nat → List Char → Prop
  | decimal : Mark 10 []
  | hexadecimal {c : Char} (letter : c = 'x' ∨ c = 'X') : Mark 16 ['0', c]
  | binary {c : Char} (letter : c = 'b' ∨ c = 'B') : Mark 2 ['0', c]

/-- A mark, perhaps a plus sign, and digits of the radix that the mark stands for. -/
def Written (text : List Char) (n : Nat) : Prop :=
  ∃ radix mark digits, Mark radix mark ∧ text = mark ++ digits ∧ Numeral.Denotes radix digits n

def unmarked : List Char → Nat × List Char
  | '0' :: 'x' :: digits | '0' :: 'X' :: digits => (16, digits)
  | '0' :: 'b' :: digits | '0' :: 'B' :: digits => (2, digits)
  | digits => (10, digits)

theorem unmarked_cases (text : List Char) :
    (∃ c digits, text = '0' :: c :: digits ∧ (c = 'x' ∨ c = 'X') ∧
        unmarked text = (16, digits)) ∨
      (∃ c digits, text = '0' :: c :: digits ∧ (c = 'b' ∨ c = 'B') ∧
        unmarked text = (2, digits)) ∨
      (∀ c digits, text = '0' :: c :: digits → c ≠ 'x' ∧ c ≠ 'X' ∧ c ≠ 'b' ∧ c ≠ 'B') ∧
        unmarked text = (10, text) := by
  unfold unmarked
  split
  · exact .inl ⟨_, _, rfl, .inl rfl, rfl⟩
  · exact .inl ⟨_, _, rfl, .inr rfl, rfl⟩
  · exact .inr (.inl ⟨_, _, rfl, .inl rfl, rfl⟩)
  · exact .inr (.inl ⟨_, _, rfl, .inr rfl, rfl⟩)
  · rename_i x X b B
    refine .inr (.inr ⟨?_, rfl⟩)
    rintro c digits rfl
    refine ⟨?_, ?_, ?_, ?_⟩
    · rintro rfl
      exact x digits rfl
    · rintro rfl
      exact X digits rfl
    · rintro rfl
      exact b digits rfl
    · rintro rfl
      exact B digits rfl

theorem unmarked_radix (text : List Char) :
    (unmarked text).1 ≤ 16 ∧ 0 < (unmarked text).1 := by
  rcases unmarked_cases text with ⟨_, _, -, -, cut⟩ | ⟨_, _, -, -, cut⟩ | ⟨-, cut⟩ <;>
    rw [cut] <;> exact ⟨by simp, by simp⟩

theorem not_denotes_marked (mark : Numeral.digitValue? 10 c = none) :
    ¬ Numeral.Denotes 10 ('0' :: c :: digits) n := by
  rw [Numeral.denotes_iff_spells (by simp)]
  intro spelled
  obtain ⟨digit, shown⟩ := spelled.exists_isDigit (List.mem_cons_of_mem _ List.mem_cons_self)
  rw [Numeral.digitValue?_of_isDigit (by decide) shown] at mark
  cases mark

theorem written_iff :
    Written text n ↔ Numeral.Denotes (unmarked text).1 (unmarked text).2 n := by
  constructor
  · rintro ⟨_, _, digits, mark, rfl, denoted⟩
    cases mark with
    | decimal =>
      rw [List.nil_append]
      rcases unmarked_cases digits with ⟨c, _, rfl, letter, -⟩ | ⟨c, _, rfl, letter, -⟩ | ⟨-, cut⟩
      · exact absurd denoted (not_denotes_marked (by rcases letter with rfl | rfl <;> rfl))
      · exact absurd denoted (not_denotes_marked (by rcases letter with rfl | rfl <;> rfl))
      · rwa [cut]
    | hexadecimal letter | binary letter =>
      rcases letter with rfl | rfl <;> exact denoted
  · intro denoted
    rcases unmarked_cases text with ⟨c, digits, rfl, letter, cut⟩ | ⟨c, digits, rfl, letter, cut⟩ |
      ⟨-, cut⟩ <;> rw [cut] at denoted
    · exact ⟨_, _, digits, .hexadecimal letter, rfl, denoted⟩
    · exact ⟨_, _, digits, .binary letter, rfl, denoted⟩
    · exact ⟨_, _, text, .decimal, rfl, denoted⟩

theorem unmarked_eq_nil_iff : (unmarked text).2 = [] ↔ ∃ radix, Mark radix text := by
  constructor
  · intro none
    rcases unmarked_cases text with ⟨c, digits, rfl, letter, cut⟩ | ⟨c, digits, rfl, letter, cut⟩ |
      ⟨-, cut⟩ <;> rw [cut] at none <;> subst none
    · exact ⟨_, .hexadecimal letter⟩
    · exact ⟨_, .binary letter⟩
    · exact ⟨_, .decimal⟩
  · rintro ⟨_, mark⟩
    cases mark with
    | decimal => rfl
    | hexadecimal letter | binary letter => rcases letter with rfl | rfl <;> rfl

theorem Written.ascii (h : Written text n) (mem : c ∈ text) : c.toNat < 128 := by
  obtain ⟨radix, mark, digits, marked, rfl, denoted⟩ := h
  cases marked with
  | decimal => exact denoted.ascii (by decide) mem
  | hexadecimal letter | binary letter =>
    simp only [List.cons_append, List.nil_append, List.mem_cons] at mem
    rcases mem with rfl | rfl | mem
    · decide
    · rcases letter with rfl | rfl <;> decide
    · exact denoted.ascii (by decide) mem

def readLowered (text : List Char) : Except NumeralError UInt64 :=
  match text with
  | '0' :: 'x' :: digits => Numeral.readWord 16 digits
  | '0' :: 'b' :: digits => Numeral.readWord 2 digits
  | digits => Numeral.readWord 10 digits

theorem readNumber_eq_readLowered (text : String) :
    readNumber text = readLowered (Text.lower text.toList) :=
  rfl

theorem exists_lowers_of_mark {letter : Char} (lower : c.toNat < 128 ∧ c.toLower = letter)
    (h : Lowers ('0' :: c :: digits) lowered) :
    ∃ digits', lowered = '0' :: letter :: digits' ∧ Lowers digits digits' := by
  obtain ⟨behind, rfl, later⟩ := h.of_cons_ascii (by decide)
  obtain ⟨digits', rfl, later'⟩ := later.of_cons_ascii lower.1
  exact ⟨digits', by rw [lower.2]; rfl, later'⟩

theorem exists_mark_of_lowers {letter : Char} (own : ¬ IsForeign letter)
    (h : Lowers text ('0' :: letter :: lowered)) :
    ∃ c digits, text = '0' :: c :: digits ∧ (c = letter ∨ c = letter.toUpper) := by
  obtain ⟨zero, _, rfl, inside, isZero, h⟩ := h.of_cons (by decide)
  obtain ⟨c, digits, rfl, inside', isLetter, -⟩ := h.of_cons own
  obtain rfl : zero = '0' := by
    rcases Text.eq_or_eq_toUpper inside with same | same <;> rw [isZero] at same <;> exact same
  exact ⟨c, digits, rfl, isLetter ▸ Text.eq_or_eq_toUpper inside'⟩

theorem readLowered_of_lowers (h : Lowers text lowered) :
    readLowered lowered = Numeral.readWord (unmarked text).1 (unmarked text).2 := by
  rcases unmarked_cases text with ⟨c, digits, rfl, letter, cut⟩ | ⟨c, digits, rfl, letter, cut⟩ |
    ⟨plain, cut⟩ <;> rw [cut]
  · obtain ⟨digits', rfl, later⟩ := exists_lowers_of_mark (show c.toNat < 128 ∧ c.toLower = 'x' by
      rcases letter with rfl | rfl <;> decide) h
    exact Numeral.readWord_lowers (by decide) later
  · obtain ⟨digits', rfl, later⟩ := exists_lowers_of_mark (show c.toNat < 128 ∧ c.toLower = 'b' by
      rcases letter with rfl | rfl <;> decide) h
    exact Numeral.readWord_lowers (by decide) later
  · unfold readLowered
    split
    · obtain ⟨c, digits, rfl, letter⟩ := exists_mark_of_lowers (by decide) h
      exact absurd letter (not_or.2 ⟨(plain c digits rfl).1, (plain c digits rfl).2.1⟩)
    · obtain ⟨c, digits, rfl, letter⟩ := exists_mark_of_lowers (by decide) h
      exact absurd letter (not_or.2 (plain c digits rfl).2.2)
    · exact Numeral.readWord_lowers (by decide) h

theorem readNumber_eq_readWord (text : String) :
    readNumber text = Numeral.readWord (unmarked text.toList).1 (unmarked text.toList).2 := by
  rw [readNumber_eq_readLowered, readLowered_of_lowers (Text.lowers_lower text.toList)]

theorem readNumber_eq_ok_iff_written {text : String} {number : UInt64} :
    readNumber text = .ok number ↔ Written text.toList number.toNat := by
  obtain ⟨small, positive⟩ := unmarked_radix text.toList
  rw [readNumber_eq_readWord, Numeral.readWord_eq_ok_iff small positive, written_iff]

theorem readNumber_eq_error_iff {text : String} {problem : NumeralError} :
    readNumber text = .error problem ↔
      Numeral.Problem (unmarked text.toList).1 (2 ^ 64 - 1) (unmarked text.toList).2 problem := by
  obtain ⟨small, positive⟩ := unmarked_radix text.toList
  rw [readNumber_eq_readWord]
  exact Numeral.readWord_eq_error_iff small positive

theorem readNumber_eq_empty_iff {text : String} :
    readNumber text = .error .empty ↔ ∃ radix, Mark radix text.toList := by
  rw [readNumber_eq_error_iff, Numeral.problem_empty_iff, unmarked_eq_nil_iff]

theorem written_of_toDigits {number : Nat} {sign written : List Char} (marked : Mark radix mark)
    (signed : sign = [] ∨ sign = ['+'])
    (shown : written.map Char.toLower = Nat.toDigits radix number) (zeros : Nat) :
    Written (mark ++ sign ++ List.replicate zeros '0' ++ written) number := by
  have several : 1 < radix ∧ radix ≤ 16 := by cases marked <;> decide
  have spelled : Numeral.Spells radix (List.replicate zeros '0' ++ written) number :=
    (Numeral.spells_of_toLower several.2
      (shown ▸ Numeral.spells_toDigits several.1 number)).zeros_append (by omega) zeros
  refine ⟨radix, mark, sign ++ (List.replicate zeros '0' ++ written), marked, by simp, _, ?_,
    spelled⟩
  rcases signed with rfl | rfl
  · exact .inl rfl
  · exact .inr rfl

/-- A word is read as a number exactly where it is a numeral of one below 2 ^ 64, and however such
a number is written it reads as itself. Any other word is refused for the first thing that is wrong
with it. All of this goes by the word as it was typed: other rules of lower case, as long as they
keep characters outside ASCII from turning into digits or marks, lead to the same. -/
theorem number_reading_exact :
    (∀ (text : String) number, readNumber text = .ok number ↔
      Written text.toList number.toNat) ∧
    (∀ (number : UInt64) radix mark sign zeros written, Mark radix mark →
      (sign = [] ∨ sign = ['+']) →
      written.map Char.toLower = Nat.toDigits radix number.toNat →
      readNumber (String.ofList (mark ++ sign ++ List.replicate zeros '0' ++ written)) =
        .ok number) ∧
    (∀ (text : String) problem, readNumber text = .error problem ↔
      Numeral.Problem (unmarked text.toList).1 (2 ^ 64 - 1) (unmarked text.toList).2 problem) ∧
    (∀ text : String, readNumber text = .error .empty ↔ ∃ radix, Mark radix text.toList) ∧
    (∀ (text : String) c, c ∈ text.toList → 128 ≤ c.toNat →
      ∀ number, readNumber text ≠ .ok number) ∧
    ∀ (text : String) lowered, Lowers text.toList lowered →
      readLowered lowered = readNumber text := by
  refine ⟨fun _ _ => readNumber_eq_ok_iff_written, ?_, fun _ _ => readNumber_eq_error_iff,
    fun _ => readNumber_eq_empty_iff, ?_, ?_⟩
  · intro number radix mark sign zeros written marked signed shown
    rw [readNumber_eq_ok_iff_written, String.toList_ofList]
    exact written_of_toDigits marked signed shown zeros
  · intro text c mem outside number read
    exact absurd ((readNumber_eq_ok_iff_written.1 read).ascii mem) (Nat.not_lt_of_le outside)
  · intro text lowered h
    rw [readLowered_of_lowers h, readNumber_eq_readWord]

theorem number_reading_exact_typed :
    readNumber "0X+00fF" = .ok 255 ∧
    readNumber "18446744073709551616z" = .error .tooLarge ∧
    readNumber "0x" = .error .empty ∧
    readLowered ['0', 'x', 'i', '\u0307'] = readNumber "0x\u0130" := by
  obtain ⟨-, returns, refused, empty, -, lowers⟩ := number_reading_exact
  have digits : Nat.toDigits 10 (2 ^ 64) ≠ [] ∧
      Numeral.Run 10 0 (Nat.toDigits 10 (2 ^ 64)) (2 ^ 64) :=
    Numeral.spells_iff_run.1 (Numeral.spells_toDigits (by decide) _)
  refine ⟨?_, ?_, ?_, ?_⟩
  · exact returns 255 16 ['0', 'X'] ['+'] 2 ['f', 'F'] (.hexadecimal (.inr rfl)) (.inr rfl)
      (by decide)
  · have past : Numeral.Problem 10 (2 ^ 64 - 1) ([] ++ Nat.toDigits 10 (2 ^ 64) ++ ['z'])
        .tooLarge := .tooLarge (.inl rfl) digits.2 (by decide)
    exact (refused "18446744073709551616z" .tooLarge).2 past
  · exact (empty "0x").2 ⟨16, .hexadecimal (.inl rfl)⟩
  · refine lowers "0x\u0130" _ ?_
    exact .cons (.ascii (by decide)) (.cons (.ascii (by decide)) (.cons .dotted .nil))

end Debugger
end ByteMachine
