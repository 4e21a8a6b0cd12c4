import ByteMachine.Text.Letters
import Mathlib.Data.List.Basic

/-! Texts in lower case, where a character may become several. What matters of a character outside
ASCII is only what its lower case begins with. -/

namespace ByteMachine.Text

variable {c d : Char} {piece text lowered : List Char}

/-- What a character may become. Only KELVIN SIGN and the dotted capital I come to begin with an
ASCII letter, and every other character outside ASCII begins outside of it still. -/
inductive LowersTo : Char → List Char → Prop
  | ascii {c : Char} (inside : c.toNat < 128) : LowersTo c [c.toLower]
  | kelvin : LowersTo '\u212a' ['k']
  | dotted : LowersTo '\u0130' ['i', '\u0307']
  | other {c d : Char} {rest : List Char} (outside : 128 ≤ c.toNat) (stays : 128 ≤ d.toNat) :
      LowersTo c (d :: rest)

inductive Lowers : List Char → List Char → Prop
  | nil : Lowers [] []
  | cons {c : Char} {piece text lowered : List Char} (first : LowersTo c piece)
      (rest : Lowers text lowered) : Lowers (c :: text) (piece ++ lowered)

theorem toLower_of_outside (outside : 128 ≤ c.toNat) : c.toLower = c := by
  have beyond : ¬ (65 ≤ c.val.toNat ∧ c.val.toNat ≤ 90) := by
    have outside : 128 ≤ c.val.toNat := outside
    omega
  exact dif_neg beyond

theorem lowersTo_lowerChar (c : Char) : LowersTo c [lowerChar c] := by
  rw [lowerChar]
  split
  · rename_i kelvin
    exact kelvin ▸ .kelvin
  · rcases Nat.lt_or_ge c.toNat 128 with inside | outside
    · exact .ascii inside
    · rw [toLower_of_outside outside]
      exact .other outside outside

theorem lowers_lower (text : List Char) : Lowers text (lower text) := by
  induction text with
  | nil => exact .nil
  | cons c text ih => exact .cons (lowersTo_lowerChar c) ih

def IsForeign (c : Char) : Prop :=
  128 ≤ c.toNat ∨ c = 'k' ∨ c = 'i'

instance : DecidablePred IsForeign := fun _ => inferInstanceAs (Decidable (_ ∨ _ ∨ _))

theorem LowersTo.eq_toLower (h : LowersTo c piece) (inside : c.toNat < 128) :
    piece = [c.toLower] := by
  cases h with
  | ascii => rfl
  | kelvin | dotted => exact absurd inside (by decide)
  | other outside => exact absurd inside (Nat.not_lt_of_le outside)

theorem LowersTo.exists_foreign (h : LowersTo c piece) (outside : 128 ≤ c.toNat) :
    ∃ d rest, piece = d :: rest ∧ IsForeign d := by
  cases h with
  | ascii inside => exact absurd inside (Nat.not_lt_of_le outside)
  | kelvin => exact ⟨_, _, rfl, .inr (.inl rfl)⟩
  | dotted => exact ⟨_, _, rfl, .inr (.inr rfl)⟩
  | other _ stays => exact ⟨_, _, rfl, .inl stays⟩

theorem Lowers.cons_cases (h : Lowers (c :: text) lowered) :
    (c.toNat < 128 ∧ ∃ rest, lowered = c.toLower :: rest ∧ Lowers text rest) ∨
      (128 ≤ c.toNat ∧ ∃ d rest, lowered = d :: rest ∧ IsForeign d) := by
  cases h with
  | cons first rest =>
    rcases Nat.lt_or_ge c.toNat 128 with inside | outside
    · rw [first.eq_toLower inside]
      exact .inl ⟨inside, _, rfl, rest⟩
    · obtain ⟨d, more, rfl, foreign⟩ := first.exists_foreign outside
      exact .inr ⟨outside, d, _, rfl, foreign⟩

theorem Lowers.eq_nil_iff (h : Lowers text lowered) : lowered = [] ↔ text = [] := by
  cases text with
  | nil =>
    cases h
    exact Iff.rfl
  | cons c text =>
    rcases h.cons_cases with ⟨-, _, rfl, -⟩ | ⟨-, _, _, rfl, -⟩ <;> simp

theorem Lowers.of_cons (h : Lowers text (d :: lowered)) (own : ¬ IsForeign d) :
    ∃ c rest, text = c :: rest ∧ c.toNat < 128 ∧ c.toLower = d ∧ Lowers rest lowered := by
  cases text with
  | nil => exact absurd (h.eq_nil_iff.2 rfl) (List.cons_ne_nil _ _)
  | cons c text =>
    rcases h.cons_cases with ⟨inside, _, same, rest⟩ | ⟨-, _, _, same, foreign⟩
    · obtain ⟨rfl, rfl⟩ := List.cons.inj same
      exact ⟨c, text, rfl, inside, rfl, rest⟩
    · exact absurd ((List.cons.inj same).1 ▸ foreign) own

theorem Lowers.of_cons_ascii (h : Lowers (c :: text) lowered) (inside : c.toNat < 128) :
    ∃ rest, lowered = c.toLower :: rest ∧ Lowers text rest := by
  rcases h.cons_cases with ⟨-, rest⟩ | ⟨outside, _⟩
  · exact rest
  · exact absurd inside (Nat.not_lt_of_le outside)

theorem eq_or_eq_toUpper (inside : c.toNat < 128) : c = c.toLower ∨ c = c.toLower.toUpper := by
  have known : ∀ n < 128, Char.ofNat n = (Char.ofNat n).toLower ∨
      Char.ofNat n = (Char.ofNat n).toLower.toUpper := by decide
  have shown := known c.toNat inside
  rwa [Char.ofNat_toNat] at shown

theorem LowersTo.eq_lowerChar {c : Char} {piece : List Char} (h : LowersTo c piece)
    (ascii : ∀ d ∈ piece, d.toNat < 128) : piece = [lowerChar c] := by
  cases h with
  | ascii inside =>
    have other : c ≠ '\u212a' := by
      rintro rfl
      exact absurd inside (by decide)
    rw [lowerChar, if_neg other]
  | kelvin => rfl
  | dotted => exact absurd (ascii '\u0307' (by decide)) (by decide)
  | other _ stays => exact absurd (ascii _ List.mem_cons_self) (Nat.not_lt_of_le stays)

theorem Lowers.eq_lower {text lowered : List Char} (h : Lowers text lowered)
    (ascii : ∀ c ∈ lowered, c.toNat < 128) : lowered = lower text := by
  induction h with
  | nil => rfl
  | cons first rest ih =>
    rw [List.forall_mem_append] at ascii
    rw [first.eq_lowerChar ascii.1, ih ascii.2]
    rfl

end ByteMachine.Text
