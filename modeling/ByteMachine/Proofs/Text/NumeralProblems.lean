import ByteMachine.Proofs.Text.Numerals

/-! What keeps a text from being read as a number: the first thing out of place in it, from left to
right. Too large a number is found out by the digits so far, whatever may come behind them. -/

namespace ByteMachine.Numeral

variable {radix limit value digit n : Nat} {c : Char} {text front back sign : List Char}
  {problem : NumeralError}

theorem digitValue?_eq_none_iff (small : radix ≤ 16) :
    digitValue? radix c = none ↔ ∀ digit, ¬ IsDigit radix c digit := by
  simp only [Option.eq_none_iff_forall_ne_some, ne_eq, digitValue?_eq_some_iff small]

def Run (radix value : Nat) (front : List Char) (n : Nat) : Prop :=
  ∃ digits, List.Forall₂ (IsDigit radix) front digits ∧ n = valueFrom radix value digits

theorem run_nil_iff : Run radix value [] n ↔ n = value := by
  simp only [Run, List.forall₂_nil_left_iff, exists_eq_left, valueFrom, List.foldl_nil]

theorem run_cons_iff :
    Run radix value (c :: front) n ↔
      ∃ digit, IsDigit radix c digit ∧ Run radix (value * radix + digit) front n := by
  constructor
  · rintro ⟨_, written, total⟩
    cases written with
    | cons first written => exact ⟨_, first, _, written, total⟩
  · rintro ⟨digit, first, digits, written, total⟩
    exact ⟨digit :: digits, .cons first written, total⟩

theorem spells_iff_run : Spells radix text n ↔ text ≠ [] ∧ Run radix 0 text n := by
  simp only [Spells, Run, valueFrom_zero]

theorem readDigits_run (small : radix ≤ 16) (positive : 0 < radix) (run : Run radix value front n)
    (within : n ≤ limit) (back : List Char) :
    readDigits radix limit value (front ++ back) = readDigits radix limit n back := by
  induction front generalizing value with
  | nil =>
    rw [run_nil_iff.1 run]
    rfl
  | cons c front ih =>
    obtain ⟨digit, first, run⟩ := run_cons_iff.1 run
    have room : value * radix + digit ≤ limit := by
      obtain ⟨digits, -, rfl⟩ := run
      exact (le_valueFrom positive _ digits).trans within
    rw [List.cons_append, readDigits_cons (digitValue?_of_isDigit small first), if_pos room,
      ih run]

theorem readDigits_past (small : radix ≤ 16) (run : Run radix value front n) (past : limit < n)
    (fits : value ≤ limit) (back : List Char) :
    readDigits radix limit value (front ++ back) = .error .tooLarge := by
  induction front generalizing value with
  | nil =>
    rw [run_nil_iff.1 run] at past
    exact absurd past (Nat.not_lt_of_le fits)
  | cons c front ih =>
    obtain ⟨digit, first, run⟩ := run_cons_iff.1 run
    rw [List.cons_append, readDigits_cons (digitValue?_of_isDigit small first)]
    split_ifs with room
    · exact ih run room
    · rfl

inductive Stuck (radix limit value : Nat) : List Char → NumeralError → Prop
  | badDigit {front : List Char} {n : Nat} {c : Char} {back : List Char}
      (run : Run radix value front n) (within : n ≤ limit)
      (bad : ∀ digit, ¬ IsDigit radix c digit) :
      Stuck radix limit value (front ++ c :: back) .badDigit
  | tooLarge {front : List Char} {n : Nat} {back : List Char} (run : Run radix value front n)
      (past : limit < n) : Stuck radix limit value (front ++ back) .tooLarge

theorem Stuck.cons (first : IsDigit radix c digit)
    (h : Stuck radix limit (value * radix + digit) text problem) :
    Stuck radix limit value (c :: text) problem := by
  cases h with
  | badDigit run within bad => exact .badDigit (run_cons_iff.2 ⟨digit, first, run⟩) within bad
  | tooLarge run past => exact .tooLarge (run_cons_iff.2 ⟨digit, first, run⟩) past

theorem stuck_of_readDigits (small : radix ≤ 16) (fits : value ≤ limit)
    (h : readDigits radix limit value text = .error problem) :
    Stuck radix limit value text problem := by
  induction text generalizing value with
  | nil => cases h
  | cons c rest ih =>
    cases known : digitValue? radix c with
    | none =>
      rw [readDigits, known] at h
      cases h
      exact .badDigit (run_nil_iff.2 rfl) fits ((digitValue?_eq_none_iff small).1 known)
    | some digit =>
      have first := isDigit_of_digitValue? small known
      rw [readDigits_cons known] at h
      split_ifs at h with room
      · exact (ih room h).cons first
      · cases h
        have run : Run radix value [c] (value * radix + digit) :=
          run_cons_iff.2 ⟨digit, first, run_nil_iff.2 rfl⟩
        exact .tooLarge run (Nat.lt_of_not_le room)

theorem readDigits_eq_error_iff (small : radix ≤ 16) (positive : 0 < radix)
    (fits : value ≤ limit) :
    readDigits radix limit value text = .error problem ↔
      Stuck radix limit value text problem := by
  refine ⟨stuck_of_readDigits small fits, fun stuck => ?_⟩
  cases stuck with
  | @badDigit front n c back run within bad =>
    rw [readDigits_run small positive run within, readDigits,
      (digitValue?_eq_none_iff small).2 bad]
  | tooLarge run past => exact readDigits_past small run past fits _

/-- The first thing that is wrong with a text. A plus sign in front is the sign and no bad digit,
but there has to be something behind it. -/
inductive Problem (radix limit : Nat) : List Char → NumeralError → Prop
  | empty : Problem radix limit [] .empty
  | signAlone : Problem radix limit ['+'] .badDigit
  | badDigit {sign front : List Char} {n : Nat} {c : Char} {back : List Char}
      (signed : sign = [] ∨ sign = ['+']) (run : Run radix 0 front n) (within : n ≤ limit)
      (bad : ∀ digit, ¬ IsDigit radix c digit) (unsigned : sign = [] → front = [] → c ≠ '+') :
      Problem radix limit (sign ++ front ++ c :: back) .badDigit
  | tooLarge {sign front : List Char} {n : Nat} {back : List Char}
      (signed : sign = [] ∨ sign = ['+']) (run : Run radix 0 front n) (past : limit < n) :
      Problem radix limit (sign ++ front ++ back) .tooLarge

theorem problem_empty_iff : Problem radix limit text .empty ↔ text = [] := by
  constructor
  · rintro (_ | _)
    rfl
  · rintro rfl
    exact .empty

theorem read_plus (visible : text ≠ []) :
    read radix limit ('+' :: text) = readDigits radix limit 0 text := by
  obtain ⟨c, rest, rfl⟩ := List.exists_cons_of_ne_nil visible
  rfl

theorem read_unsigned (visible : text ≠ []) (unsigned : text.head? ≠ some '+') :
    read radix limit text = readDigits radix limit 0 text := by
  unfold read
  split
  · exact absurd rfl visible
  · exact absurd rfl unsigned
  · exact absurd rfl unsigned
  · rfl

theorem read_signed (visible : text ≠ []) (signed : sign = [] ∨ sign = ['+'])
    (unsigned : sign = [] → text.head? ≠ some '+') :
    read radix limit (sign ++ text) = readDigits radix limit 0 text := by
  rcases signed with rfl | rfl
  · exact read_unsigned visible (unsigned rfl)
  · exact read_plus visible

theorem Run.head?_ne_plus (small : radix ≤ 16) (run : Run radix value front n)
    (other : front = [] → back.head? ≠ some '+') : (front ++ back).head? ≠ some '+' := by
  cases front with
  | nil => exact other rfl
  | cons c front =>
    obtain ⟨digit, first, -⟩ := run_cons_iff.1 run
    intro same
    exact not_isDigit_plus small (Option.some.inj same ▸ first)

theorem read_eq_tooLarge (small : radix ≤ 16) (spelled : Spells radix text n) (past : limit < n) :
    read radix limit text = .error .tooLarge := by
  obtain ⟨visible, run⟩ := spells_iff_run.1 spelled
  have unsigned : (text ++ []).head? ≠ some '+' :=
    run.head?_ne_plus small fun empty => absurd empty visible
  have digits := readDigits_past small run past (Nat.zero_le limit) []
  rw [List.append_nil] at unsigned digits
  rw [read_unsigned visible unsigned, digits]

theorem Run.ne_nil (run : Run radix 0 front n) (past : limit < n) : front ≠ [] := by
  rintro rfl
  rw [run_nil_iff.1 run] at past
  exact Nat.not_lt_zero limit past

theorem Stuck.problem_append (stuck : Stuck radix limit 0 text problem)
    (signed : sign = [] ∨ sign = ['+']) (unsigned : sign = [] → text.head? ≠ some '+') :
    Problem radix limit (sign ++ text) problem := by
  cases stuck with
  | @badDigit front n c back run within bad =>
    rw [← List.append_assoc]
    refine .badDigit signed run within bad ?_
    rintro none rfl same
    exact unsigned none (congrArg some same)
  | tooLarge run past =>
    rw [← List.append_assoc]
    exact .tooLarge signed run past

theorem read_eq_error_iff (small : radix ≤ 16) (positive : 0 < radix) :
    read radix limit text = .error problem ↔ Problem radix limit text problem := by
  have digits (text : List Char) : readDigits radix limit 0 text = .error problem ↔
      Stuck radix limit 0 text problem := readDigits_eq_error_iff small positive (Nat.zero_le _)
  constructor
  · intro h
    unfold read at h
    split at h
    · cases h
      exact .empty
    · cases h
      exact .signAlone
    · exact ((digits _).1 h).problem_append (.inr rfl) nofun
    · rename_i unsigned
      refine ((digits _).1 h).problem_append (.inl rfl) fun _ first => ?_
      obtain ⟨rest, rfl⟩ := List.head?_eq_some_iff.1 first
      exact unsigned rest rfl
  · intro wrong
    cases wrong with
    | empty | signAlone => rfl
    | @badDigit sign front n c back signed run within bad unsigned =>
      rw [List.append_assoc, read_signed (by simp) signed, digits]
      · exact .badDigit run within bad
      · exact fun none => run.head?_ne_plus small fun empty same =>
          unsigned none empty (Option.some.inj same)
    | @tooLarge sign front n back signed run past =>
      have some := run.ne_nil past
      rw [List.append_assoc, read_signed (by simp [some]) signed, digits]
      · exact .tooLarge run past
      · exact fun _ => run.head?_ne_plus small fun empty => absurd empty some

theorem readWord_eq_error_iff (small : radix ≤ 16) (positive : 0 < radix) :
    readWord radix text = .error problem ↔ Problem radix 0xFFFFFFFFFFFFFFFF text problem := by
  rw [← read_eq_error_iff small positive, readWord]
  cases read radix 0xFFFFFFFFFFFFFFFF text <;> simp

end ByteMachine.Numeral
