import Mathlib.Data.List.Forall2
import Mathlib.Data.Nat.Digits.Defs
import ByteMachine.Numeral

/-! The numerals that are accepted in a radix, and the numbers they denote. -/

namespace ByteMachine

theorem exists_of_forall₂ {α β : Type} {r : α → β → Prop} {as : List α} {bs : List β} {a : α}
    (h : List.Forall₂ r as bs) (mem : a ∈ as) : ∃ b, r a b := by
  induction h with
  | nil => cases mem
  | cons first _ ih =>
    rcases List.mem_cons.1 mem with rfl | mem
    · exact ⟨_, first⟩
    · exact ih mem

namespace Numeral

variable {radix limit digit n : Nat} {c : Char} {text : List Char}

def IsDigit (radix : Nat) (c : Char) (digit : Nat) : Prop :=
  digit < radix ∧ (c = digit.digitChar ∨ c = digit.digitChar.toUpper)

theorem char_eq_of_toNat {base : Nat} (high : base ≤ c.toNat) (h : c.toNat - base = digit) :
    c = Char.ofNat (digit + base) := by
  rw [← h, Nat.sub_add_cancel high, Char.ofNat_toNat]

theorem isDigit_of_digitValue? (small : radix ≤ 16) (h : digitValue? radix c = some digit) :
    IsDigit radix c digit := by
  have decimal : ∀ d < 10, Char.ofNat (d + 48) = d.digitChar := by decide
  have lower : ∀ d < 16, 10 ≤ d → Char.ofNat (d - 10 + 97) = d.digitChar := by decide
  have upper : ∀ d < 16, 10 ≤ d → Char.ofNat (d - 10 + 65) = d.digitChar.toUpper := by decide
  rw [digitValue?, Option.ite_none_right_eq_some, Option.some.injEq] at h
  obtain ⟨bound, value⟩ := h
  rw [value] at bound
  refine ⟨bound, ?_⟩
  split_ifs at value with inDecimal inLower inUpper
  · have high : c.toNat ≤ 57 := inDecimal.2
    have code : c.toNat - 48 = digit := value
    rw [← decimal digit (by omega)]
    exact .inl (char_eq_of_toNat inDecimal.1 code)
  · have code : c.toNat - 97 + 10 = digit := value
    rw [← lower digit (by omega) (by omega)]
    exact .inl (char_eq_of_toNat inLower.1 (by omega))
  · have code : c.toNat - 65 + 10 = digit := value
    rw [← upper digit (by omega) (by omega)]
    exact .inr (char_eq_of_toNat inUpper.1 (by omega))
  · omega

theorem digitValue?_of_isDigit (small : radix ≤ 16) (h : IsDigit radix c digit) :
    digitValue? radix c = some digit := by
  have known : ∀ d < 16, digitValue? 16 d.digitChar = some d ∧
      digitValue? 16 d.digitChar.toUpper = some d := by decide
  obtain ⟨bound, shown⟩ := h
  have known := known digit (by omega)
  have value : digitValue? 16 c = some digit := by
    rcases shown with rfl | rfl
    · exact known.1
    · exact known.2
  rw [digitValue?, Option.ite_none_right_eq_some, Option.some.injEq] at value ⊢
  split_ifs at value ⊢ <;> first | exact ⟨value.2 ▸ bound, value.2⟩ | omega

theorem digitValue?_eq_some_iff (small : radix ≤ 16) :
    digitValue? radix c = some digit ↔ IsDigit radix c digit :=
  ⟨isDigit_of_digitValue? small, digitValue?_of_isDigit small⟩

def valueFrom (radix : Nat) (value : Nat) (digits : List Nat) : Nat :=
  digits.foldl (fun value digit => value * radix + digit) value

theorem valueFrom_zero (radix : Nat) (digits : List Nat) :
    valueFrom radix 0 digits = Nat.ofDigits radix digits.reverse := by
  rw [valueFrom, Nat.ofDigits_eq_foldr, List.foldr_reverse]
  simp only [Nat.cast_id, Nat.add_comm, Nat.mul_comm]

theorem le_valueFrom (positive : 0 < radix) (value : Nat) (digits : List Nat) :
    value ≤ valueFrom radix value digits := by
  induction digits generalizing value with
  | nil => exact Nat.le_refl value
  | cons digit digits ih =>
    calc value ≤ value * radix := Nat.le_mul_of_pos_right value positive
      _ ≤ value * radix + digit := Nat.le_add_right ..
      _ ≤ valueFrom radix (value * radix + digit) digits := ih _

theorem readDigits_cons (h : digitValue? radix c = some digit) (value : Nat) :
    readDigits radix limit value (c :: text) =
      if value * radix + digit ≤ limit then
        readDigits radix limit (value * radix + digit) text
      else .error .tooLarge := by
  rw [readDigits, h]

theorem readDigits_eq_ok_iff (small : radix ≤ 16) (positive : 0 < radix) {value : Nat}
    (fits : value ≤ limit) :
    readDigits radix limit value text = .ok n ↔
      ∃ digits, List.Forall₂ (IsDigit radix) text digits ∧ n = valueFrom radix value digits ∧
        n ≤ limit := by
  induction text generalizing value with
  | nil =>
    simp only [readDigits, Except.ok.injEq, List.forall₂_nil_left_iff, exists_eq_left, valueFrom,
      List.foldl_nil]
    exact ⟨fun h => ⟨h.symm, h ▸ fits⟩, fun h => h.1.symm⟩
  | cons c rest ih =>
    constructor
    · intro h
      cases known : digitValue? radix c with
      | none =>
        rw [readDigits, known] at h
        cases h
      | some digit =>
        rw [readDigits_cons known] at h
        split_ifs at h with room
        obtain ⟨digits, written, total, bound⟩ := (ih room).1 h
        exact ⟨digit :: digits, .cons ((digitValue?_eq_some_iff small).1 known) written, total,
          bound⟩
    · rintro ⟨_, written, total, bound⟩
      cases written with
      | cons first written =>
        rename_i digit digits
        have room : value * radix + digit ≤ limit := by
          refine (le_valueFrom positive _ digits).trans ?_
          exact total ▸ bound
        rw [readDigits_cons ((digitValue?_eq_some_iff small).2 first), if_pos room]
        exact (ih room).2 ⟨digits, written, total, bound⟩

/-- At least one digit, and any number of zeros in front. -/
def Spells (radix : Nat) (written : List Char) (n : Nat) : Prop :=
  written ≠ [] ∧
    ∃ digits, List.Forall₂ (IsDigit radix) written digits ∧ n = Nat.ofDigits radix digits.reverse

theorem readDigits_zero_eq_ok_iff (small : radix ≤ 16) (positive : 0 < radix) (h : text ≠ []) :
    readDigits radix limit 0 text = .ok n ↔ Spells radix text n ∧ n ≤ limit := by
  simp only [readDigits_eq_ok_iff small positive (Nat.zero_le limit), valueFrom_zero, Spells,
    ne_eq, h, not_false_eq_true, true_and, ← and_assoc, exists_and_right]

theorem Spells.exists_isDigit (h : Spells radix text n) (mem : c ∈ text) :
    ∃ digit, IsDigit radix c digit := by
  obtain ⟨-, digits, written, -⟩ := h
  exact exists_of_forall₂ written mem

theorem IsDigit.zero_or_one (h : IsDigit 2 c digit) : c = '0' ∨ c = '1' := by
  obtain ⟨small, shown⟩ := h
  have binary : digit = 0 ∨ digit = 1 := by omega
  rcases binary with rfl | rfl
  · exact .inl (shown.elim id id)
  · exact .inr (shown.elim id id)

theorem Spells.zero_cons (positive : 0 < radix) (h : Spells radix text n) :
    Spells radix ('0' :: text) n := by
  obtain ⟨-, digits, written, rfl⟩ := h
  refine ⟨List.cons_ne_nil _ _, 0 :: digits, .cons ⟨positive, .inl rfl⟩ written, ?_⟩
  rw [Nat.ofDigits_reverse_zero_cons]

theorem Spells.snoc (h : Spells radix text n) (last : IsDigit radix c digit) :
    Spells radix (text ++ [c]) (n * radix + digit) := by
  obtain ⟨-, digits, written, rfl⟩ := h
  refine ⟨List.append_ne_nil_of_right_ne_nil _ (List.cons_ne_nil _ _), digits ++ [digit],
    List.rel_append written (.cons last .nil), ?_⟩
  rw [List.reverse_append, List.reverse_singleton, List.singleton_append, Nat.ofDigits_cons,
    Nat.add_comm, Nat.mul_comm]

theorem spells_toDigits (several : 1 < radix) (n : Nat) :
    Spells radix (Nat.toDigits radix n) n := by
  induction n using Nat.strongRecOn with
  | ind n ih =>
    rcases Nat.lt_or_ge n radix with single | large
    · rw [Nat.toDigits_of_lt_base single]
      refine ⟨List.cons_ne_nil _ _, [n], .cons ⟨single, .inl rfl⟩ .nil, ?_⟩
      rw [List.reverse_singleton, Nat.ofDigits_singleton]
    · have front := ih (n / radix) (Nat.div_lt_self (by omega) several)
      have last : IsDigit radix (n % radix).digitChar (n % radix) :=
        ⟨Nat.mod_lt n (by omega), .inl rfl⟩
      have whole := front.snoc last
      rwa [Nat.div_add_mod', ← Nat.toDigits_of_base_le several large] at whole

theorem spells_leftpad (several : 1 < radix) (width n : Nat) :
    Spells radix ((Nat.toDigits radix n).leftpad width '0') n := by
  rw [List.leftpad]
  induction width - (Nat.toDigits radix n).length with
  | zero => exact spells_toDigits several n
  | succ missing ih => exact ih.zero_cons (by omega)

def Denotes (radix : Nat) (text : List Char) (n : Nat) : Prop :=
  ∃ written, (text = written ∨ text = '+' :: written) ∧ Spells radix written n

theorem not_isDigit_plus (small : radix ≤ 16) : ¬ IsDigit radix '+' digit := by
  rw [← digitValue?_eq_some_iff small, digitValue?, Option.ite_none_right_eq_some,
    Option.some.injEq, if_neg (by decide), if_neg (by decide), if_neg (by decide)]
  omega

theorem not_spells_plus (small : radix ≤ 16) : ¬ Spells radix ('+' :: text) n := by
  rintro ⟨-, _, written, -⟩
  cases written with
  | cons first _ => exact not_isDigit_plus small first

theorem denotes_plus_iff (small : radix ≤ 16) :
    Denotes radix ('+' :: text) n ↔ Spells radix text n := by
  constructor
  · rintro ⟨written, rfl | same, spelled⟩
    · exact absurd spelled (not_spells_plus small)
    · exact (List.cons.inj same).2 ▸ spelled
  · exact fun spelled => ⟨text, .inr rfl, spelled⟩

theorem denotes_iff_spells (sign : text.head? ≠ some '+') :
    Denotes radix text n ↔ Spells radix text n := by
  constructor
  · rintro ⟨written, rfl | rfl, spelled⟩
    · exact spelled
    · exact absurd rfl sign
  · exact fun spelled => ⟨text, .inl rfl, spelled⟩

theorem read_eq_ok_iff (small : radix ≤ 16) (positive : 0 < radix) :
    read radix limit text = .ok n ↔ Denotes radix text n ∧ n ≤ limit := by
  unfold read
  split
  · have sign : ([] : List Char).head? ≠ some '+' := by decide
    simp only [reduceCtorEq, denotes_iff_spells sign, Spells, ne_eq, not_true_eq_false, false_and]
  · simp only [reduceCtorEq, denotes_plus_iff small, Spells, ne_eq, not_true_eq_false, false_and]
  · rename_i digits more
    rw [denotes_plus_iff small, readDigits_zero_eq_ok_iff small positive (by simpa using more)]
  · rename_i _ visible _ unsigned
    have sign : text.head? ≠ some '+' := by
      intro first
      obtain ⟨rest, rfl⟩ := List.head?_eq_some_iff.1 first
      exact unsigned rest rfl
    rw [denotes_iff_spells sign, readDigits_zero_eq_ok_iff small positive visible]

theorem Spells.unique (small : radix ≤ 16) (positive : 0 < radix) {m : Nat}
    (h : Spells radix text m) (h' : Spells radix text n) : m = n := by
  have reads (k : Nat) (spelled : Spells radix text k) (fits : k ≤ max m n) :
      read radix (max m n) text = .ok k :=
    (read_eq_ok_iff small positive).2 ⟨⟨text, .inl rfl, spelled⟩, fits⟩
  have first := reads m h (Nat.le_max_left m n)
  have second := reads n h' (Nat.le_max_right m n)
  exact Except.ok.inj (first.symm.trans second)

theorem map_read_eq_ok_iff {α : Type} {ofNat : Nat → α} {toNat : α → Nat} (small : radix ≤ 16)
    (positive : 0 < radix) (bounded : ∀ a, toNat a ≤ limit)
    (toNat_ofNat : ∀ n ≤ limit, toNat (ofNat n) = n) (ofNat_toNat : ∀ a, ofNat (toNat a) = a)
    {a : α} : ofNat <$> read radix limit text = .ok a ↔ Denotes radix text (toNat a) := by
  have reads (n : Nat) : read radix limit text = .ok n ↔ Denotes radix text n ∧ n ≤ limit :=
    read_eq_ok_iff small positive
  constructor
  · intro h
    cases result : read radix limit text with
    | error problem =>
      rw [result] at h
      cases h
    | ok n =>
      rw [result] at h
      obtain ⟨denoted, fits⟩ := (reads n).1 result
      rw [← Except.ok.inj h, toNat_ofNat n fits]
      exact denoted
  · intro denoted
    rw [(reads _).2 ⟨denoted, bounded a⟩]
    exact congrArg Except.ok (ofNat_toNat a)

theorem readByte_eq_ok_iff (small : radix ≤ 16) (positive : 0 < radix) {byte : UInt8} :
    readByte radix text = .ok byte ↔ Denotes radix text byte.toNat :=
  map_read_eq_ok_iff small positive (fun byte => Nat.le_of_lt_succ byte.toNat_lt)
    (fun _ fits => UInt8.toNat_ofNat_of_lt' (Nat.lt_succ_of_le fits)) fun _ => UInt8.ofNat_toNat

theorem readWord_eq_ok_iff (small : radix ≤ 16) (positive : 0 < radix) {word : UInt64} :
    readWord radix text = .ok word ↔ Denotes radix text word.toNat :=
  map_read_eq_ok_iff small positive (fun word => Nat.le_of_lt_succ word.toNat_lt)
    (fun _ fits => UInt64.toNat_ofNat_of_lt' (Nat.lt_succ_of_le fits)) fun _ => UInt64.ofNat_toNat

end Numeral
end ByteMachine
