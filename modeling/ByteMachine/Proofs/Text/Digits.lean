import ByteMachine.Proofs.Text.Numerals
import ByteMachine.Proofs.Text.Words

/-! What the digits of a number look like, and that no two numbers have the same. -/

namespace ByteMachine.Text

theorem spells_toUpper {digits : List Char} {n : Nat} (h : Numeral.Spells 16 digits n) :
    Numeral.Spells 16 (digits.map Char.toUpper) n := by
  have upper : ∀ digit < 16, digit.digitChar.toUpper.toUpper = digit.digitChar.toUpper := by decide
  obtain ⟨some, values, written, value⟩ := h
  refine ⟨by simpa using some, values, List.forall₂_map_left_iff.2 (written.imp ?_), value⟩
  rintro c digit ⟨small, rfl | rfl⟩
  · exact ⟨small, .inr rfl⟩
  · exact ⟨small, .inr (upper digit small)⟩

theorem spells_hexPair (n : Nat) : Numeral.Spells 16 (hexPair n).toList n := by
  have padded := spells_toUpper (Numeral.spells_leftpad (by decide) 2 n)
  have same : ((Nat.toDigits 16 n).leftpad 2 '0').map Char.toUpper =
      (hexDigits n).leftpad 2 '0' := by
    simp only [List.leftpad, List.map_append, List.map_replicate, hexDigits, List.length_map]
    rfl
  rwa [same, ← String.toList_ofList (l := (hexDigits n).leftpad 2 '0')] at padded

theorem hexPair_injective {m n : Nat} (h : hexPair m = hexPair n) : m = n :=
  (spells_hexPair m).unique (by decide) (by decide) (h ▸ spells_hexPair n)

theorem hexPair_eq {n : Nat} (h : n < 256) :
    ∃ high low, high ∈ hexAlphabet ∧ low ∈ hexAlphabet ∧ (hexPair n).toList = [high, low] := by
  have each : ∀ n < 256, (hexPair n).toList.length = 2 := by decide +kernel
  have pair := each n h
  have hex : ∀ c ∈ (hexPair n).toList, c ∈ hexAlphabet := fun _ => mem_hexAlphabet_of_mem_hexPair
  match digits : (hexPair n).toList, pair with
  | [high, low], _ =>
    rw [digits] at hex
    exact ⟨high, low, hex high List.mem_cons_self, hex low (List.mem_cons_of_mem _
      List.mem_cons_self), rfl⟩

/-- A mark and capital digits: as many as are asked for, or as many as it takes. -/
def IsHexLiteral (width : Nat) (text : String) (n : Nat) : Prop :=
  ∃ digits, text = "0x" ++ String.ofList digits ∧ Numeral.Spells 16 digits n ∧
    (∀ c ∈ digits, c ∈ hexAlphabet) ∧ width ≤ digits.length ∧
    (digits.head? = some '0' → digits.length = width)

theorem IsHexLiteral.unique {width m n : Nat} {text : String} (h : IsHexLiteral width text m)
    (h' : IsHexLiteral width text n) : m = n := by
  obtain ⟨digits, rfl, spelled, -⟩ := h
  obtain ⟨digits', same, spelled', -⟩ := h'
  obtain rfl := String.ofList_injective ((String.append_right_inj _).1 same)
  exact spelled.unique (by decide) (by decide) spelled'

theorem spells_hexDigits (n : Nat) : Numeral.Spells 16 (hexDigits n) n :=
  spells_toUpper (Numeral.spells_toDigits (by decide) n)

theorem hexDigits_of_lt {n : Nat} (small : n < 16) : hexDigits n = [n.digitChar.toUpper] := by
  rw [hexDigits, Nat.toDigits_of_lt_base small, List.map_singleton]

theorem hexDigits_of_le {n : Nat} (large : 16 ≤ n) :
    hexDigits n = hexDigits (n / 16) ++ [(n % 16).digitChar.toUpper] := by
  rw [hexDigits, Nat.toDigits_of_base_le (by decide) large, List.map_append, List.map_singleton,
    hexDigits]

theorem hexDigits_ne_nil (n : Nat) : hexDigits n ≠ [] :=
  (spells_hexDigits n).1

theorem head?_hexDigits {n : Nat} (positive : 0 < n) : (hexDigits n).head? ≠ some '0' := by
  have visible : ∀ d < 16, 0 < d → d.digitChar.toUpper ≠ '0' := by decide
  induction n using Nat.strongRecOn with
  | ind n ih =>
    rcases Nat.lt_or_ge n 16 with small | large
    · rw [hexDigits_of_lt small, List.head?_cons, ne_eq, Option.some_inj]
      exact visible n small positive
    · rw [hexDigits_of_le large, List.head?_append_of_ne_nil _ (hexDigits_ne_nil _)]
      exact ih (n / 16) (by omega) (by omega)

theorem length_hexDigits_of_zero {n : Nat} (zero : (hexDigits n).head? = some '0') :
    (hexDigits n).length = 1 := by
  rcases Nat.eq_zero_or_pos n with rfl | positive
  · rfl
  · exact absurd zero (head?_hexDigits positive)

theorem isHexLiteral_hexLiteral (n : Nat) : IsHexLiteral 1 (hexLiteral n) n := by
  refine ⟨hexDigits n, rfl, spells_hexDigits n, fun c => mem_hexAlphabet_of_mem_hexDigits, ?_,
    length_hexDigits_of_zero⟩
  exact List.length_pos_iff.2 (hexDigits_ne_nil n)

theorem isHexLiteral_hexPairLiteral (n : Nat) : IsHexLiteral 2 (hexPairLiteral n) n := by
  have digits : (hexPair n).toList = (hexDigits n).leftpad 2 '0' := by
    rw [hexPair, String.toList_ofList]
  refine ⟨(hexPair n).toList, ?_, spells_hexPair n, fun c => mem_hexAlphabet_of_mem_hexPair, ?_,
    fun zero => ?_⟩
  · rw [hexPairLiteral, String.ofList_toList]
  · rw [digits, List.length_leftpad]
    exact Nat.le_max_left ..
  · rw [digits] at zero ⊢
    rw [List.length_leftpad]
    refine Nat.max_eq_left (Nat.le_of_not_lt fun long => ?_)
    have unpadded : (hexDigits n).leftpad 2 '0' = hexDigits n := by
      rw [List.leftpad, Nat.sub_eq_zero_of_le (by omega), List.replicate_zero, List.nil_append]
    rw [unpadded] at zero
    have short := length_hexDigits_of_zero zero
    omega

theorem spells_decimal (n : Nat) : Numeral.Spells 10 (decimal n).toList n := by
  rw [decimal, String.toList_ofList]
  exact Numeral.spells_toDigits (by decide) n

theorem decimal_injective {m n : Nat} (h : decimal m = decimal n) : m = n :=
  (spells_decimal m).unique (by decide) (by decide) (h ▸ spells_decimal n)

theorem isDigit_of_mem_decimal {n : Nat} {c : Char} (h : c ∈ (decimal n).toList) :
    c.isDigit := by
  rw [decimal, String.toList_ofList] at h
  exact Nat.isDigit_of_mem_toDigits (by decide) (by decide) h

end ByteMachine.Text
