import ByteMachine.Proofs.Program.Listing

/-! Which line of a text is blamed when no program can be read off it. -/

namespace ByteMachine.Program

variable {line text source : List Char} {lines contents : List (List Char)}

def Holds (source : List Char) (contents : List (List Char)) : Prop :=
  ∃ lines, Text.CutInto source lines ∧ List.Forall₂ Content lines contents

theorem holds_iff : Holds source contents ↔ (Text.lines source).map uncomment = contents := by
  constructor
  · rintro ⟨lines, cut, held⟩
    rw [← Text.cutInto_iff.1 cut]
    exact forall₂_content_iff.1 held
  · exact fun held => ⟨_, Text.cutInto_lines source, forall₂_content_iff.2 held⟩

theorem existsUnique_holds (source : List Char) : ∃! contents, Holds source contents :=
  ⟨_, holds_iff.2 rfl, fun _ held => (holds_iff.1 held).symm⟩

theorem holds_line (within : '\n' ∉ line) (some : line ≠ []) : Holds line [uncomment line] := by
  rw [holds_iff, Text.lines_unended some within, List.map_singleton]

theorem Holds.line_append {rest : List Char} (within : '\n' ∉ line) (held : Holds rest contents) :
    Holds (line ++ '\n' :: rest) (uncomment line :: contents) := by
  rw [holds_iff] at held ⊢
  rw [Text.lines_append within, List.map_cons, uncomment_chomp, held]

theorem Holds.replicate_append {rest : List Char} (held : Holds rest contents)
    (within : '\n' ∉ line) (n : Nat) :
    Holds ((List.replicate n (line ++ ['\n'])).flatten ++ rest)
      (List.replicate n (uncomment line) ++ contents) := by
  induction n with
  | zero => exact held
  | succ n ih =>
    rw [List.replicate_succ, List.flatten_cons, List.append_assoc, List.append_assoc]
    exact ih.line_append within

def Invalid (text : List Char) : Prop :=
  text ≠ [] ∧ ∀ n ≤ 255, ¬ Numeral.Denotes 2 text n

theorem not_invalid_nil : ¬ Invalid [] :=
  fun h => h.1 rfl

theorem invalid_iff (some : text ≠ []) :
    Invalid text ↔ ∃ problem, Numeral.readByte 2 text = .error problem := by
  have numeral (byte : UInt8) :
      Numeral.readByte 2 text = .ok byte ↔ Numeral.Denotes 2 text byte.toNat :=
    Numeral.readByte_eq_ok_iff (by decide) (by decide)
  constructor
  · rintro ⟨-, none⟩
    cases read : Numeral.readByte 2 text with
    | error problem => exact ⟨problem, rfl⟩
    | ok byte => exact absurd ((numeral byte).1 read) (none _ (Nat.le_of_lt_succ byte.toNat_lt))
  · rintro ⟨problem, read⟩
    refine ⟨some, fun n fits denoted => ?_⟩
    rw [← UInt8.toNat_ofNat_of_lt' (Nat.lt_succ_of_le fits), ← numeral, read] at denoted
    cases denoted

/-- The first of the lines that is invalid, with its number where the count starts as given. -/
def FirstInvalid (start : Nat) (contents : List (List Char)) (number : Nat) (text : List Char) :
    Prop :=
  ∃ before after, contents = before ++ text :: after ∧ number = start + before.length ∧
    (∀ other ∈ before, ¬ Invalid other) ∧ Invalid text

section

variable {start number : Nat} {other : List Char}

theorem firstInvalid_cons_of_invalid (invalid : Invalid other) :
    FirstInvalid start (other :: contents) number text ↔ number = start ∧ text = other := by
  constructor
  · rintro ⟨_ | ⟨first, before⟩, after, shape, rfl, valid, -⟩
    · exact ⟨rfl, (List.cons.inj shape).1.symm⟩
    · rw [(List.cons.inj shape).1] at invalid
      exact absurd invalid (valid first List.mem_cons_self)
  · rintro ⟨rfl, rfl⟩
    exact ⟨[], contents, rfl, rfl, fun _ => nofun, invalid⟩

theorem firstInvalid_cons_of_valid (valid : ¬ Invalid other) :
    FirstInvalid start (other :: contents) number text ↔
      FirstInvalid (start + 1) contents number text := by
  constructor
  · rintro ⟨_ | ⟨first, before⟩, after, shape, rfl, earlier, invalid⟩
    · rw [← (List.cons.inj shape).1] at invalid
      exact absurd invalid valid
    · refine ⟨before, after, (List.cons.inj shape).2, ?_, ?_, invalid⟩
      · rw [List.length_cons]
        omega
      · exact fun other mem => earlier other (List.mem_cons_of_mem first mem)
  · rintro ⟨before, after, rfl, rfl, earlier, invalid⟩
    refine ⟨other :: before, after, rfl, ?_, List.forall_mem_cons.2 ⟨valid, earlier⟩, invalid⟩
    rw [List.length_cons]
    omega

theorem exists_firstInvalid (start : Nat) (some : ∃ text ∈ contents, Invalid text) :
    ∃ number text, FirstInvalid start contents number text := by
  induction contents generalizing start with
  | nil =>
    obtain ⟨text, mem, -⟩ := some
    cases mem
  | cons other contents ih =>
    by_cases invalid : Invalid other
    · exact ⟨start, other, (firstInvalid_cons_of_invalid invalid).2 ⟨rfl, rfl⟩⟩
    · have later : ∃ text ∈ contents, Invalid text := by
        obtain ⟨text, mem, bad⟩ := some
        rcases List.mem_cons.1 mem with rfl | mem
        · exact absurd bad invalid
        · exact ⟨text, mem, bad⟩
      obtain ⟨number, text, first⟩ := ih (start + 1) later
      exact ⟨number, text, (firstInvalid_cons_of_valid invalid).2 first⟩

theorem readLines_eq_error_iff {fault : Fault} :
    readLines start lines = .error fault ↔
      ∃ number text, fault = .invalidLine number (String.ofList text) ∧
        FirstInvalid start (lines.map uncomment) number text := by
  induction lines generalizing start with
  | nil =>
    simp [readLines, FirstInvalid]
  | cons line lines ih =>
    rw [List.map_cons]
    cases empty : (uncomment line).isEmpty with
    | true =>
      have valid : ¬ Invalid (uncomment line) := List.isEmpty_iff.1 empty ▸ not_invalid_nil
      simp only [readLines_cons_empty empty, ih, firstInvalid_cons_of_valid valid]
    | false =>
      have some : uncomment line ≠ [] := List.isEmpty_eq_false_iff.1 empty
      rw [readLines_cons empty]
      cases read : Numeral.readByte 2 (uncomment line) with
      | error problem =>
        have invalid := (invalid_iff some).2 ⟨problem, read⟩
        simp only [firstInvalid_cons_of_invalid invalid, Except.error.injEq]
        constructor
        · rintro rfl
          exact ⟨_, _, rfl, rfl, rfl⟩
        · rintro ⟨_, _, rfl, rfl, rfl⟩
          rfl
      | ok byte =>
        have valid : ¬ Invalid (uncomment line) := by
          rw [invalid_iff some, read]
          rintro ⟨problem, ⟨⟩⟩
        simp only [firstInvalid_cons_of_valid valid, ← ih]
        cases readLines (start + 1) lines <;> simp

end

section

variable {source : String} {contents : List (List Char)}

theorem parse_eq_error_iff {fault : Fault} :
    parse source = .error fault ↔
      readLines 1 (Text.lines source.toList) = .error fault ∨
        ∃ bytes, readLines 1 (Text.lines source.toList) = .ok bytes ∧ capacity < bytes.length ∧
          fault = .programTooLarge bytes.length := by
  rw [parse]
  cases read : readLines 1 (Text.lines source.toList) with
  | error other => simp [bind, Except.bind]
  | ok bytes =>
    by_cases fits : bytes.length ≤ capacity
    · simp [bind, Except.bind, pure, Except.pure, fits]
    · simp [bind, Except.bind, fits, throw, throwThe, MonadExceptOf.throw, eq_comm]
      omega

theorem exitCode_of_parse {fault : Fault} (h : parse source = .error fault) :
    fault.exitCode = 2 := by
  rcases parse_eq_error_iff.1 h with failed | ⟨bytes, -, -, rfl⟩
  · obtain ⟨number, text, rfl, -⟩ := readLines_eq_error_iff.1 failed
    rfl
  · rfl

theorem readLines_of_forall_valid {lines : List (List Char)} (start : Nat)
    (valid : ∀ text ∈ lines.map uncomment, ¬ Invalid text) :
    ∃ bytes, readLines start lines = .ok bytes := by
  cases read : readLines start lines with
  | ok bytes => exact ⟨bytes, rfl⟩
  | error fault =>
    obtain ⟨number, text, -, before, after, shape, -, -, invalid⟩ := readLines_eq_error_iff.1 read
    exact absurd invalid (valid text (by simp [shape]))

theorem forall_valid_of_readLines {lines : List (List Char)} {start : Nat} {bytes : List UInt8}
    (h : readLines start lines = .ok bytes) : ∀ text ∈ lines.map uncomment, ¬ Invalid text := by
  intro text mem invalid
  obtain ⟨number, text, first⟩ := exists_firstInvalid start ⟨text, mem, invalid⟩
  rw [readLines_eq_error_iff.2 ⟨number, text, rfl, first⟩] at h
  cases h

theorem length_of_readLines {lines : List (List Char)} {start : Nat} {bytes : List UInt8}
    (h : readLines start lines = .ok bytes) :
    bytes.length = (lines.map uncomment).countP fun text => !text.isEmpty := by
  rw [List.countP_eq_length_filter]
  exact ((readLines_eq_ok_iff start).1 h).length_eq.symm

theorem parse_eq_invalidLine_iff (held : Holds source.toList contents) (number : Nat)
    (text : String) :
    parse source = .error (.invalidLine number text) ↔
      FirstInvalid 1 contents number text.toList := by
  rw [← holds_iff.1 held, parse_eq_error_iff, readLines_eq_error_iff]
  constructor
  · rintro (⟨_, _, ⟨⟩, first⟩ | ⟨bytes, -, -, ⟨⟩⟩)
    rwa [String.toList_ofList]
  · exact fun first => .inl ⟨number, text.toList, by rw [String.ofList_toList], first⟩

theorem parse_eq_programTooLarge_iff (held : Holds source.toList contents) (size : Nat) :
    parse source = .error (.programTooLarge size) ↔
      (∀ text ∈ contents, ¬ Invalid text) ∧
        size = (contents.countP fun text => !text.isEmpty) ∧ capacity < size := by
  rw [← holds_iff.1 held, parse_eq_error_iff]
  constructor
  · rintro (failed | ⟨bytes, read, large, ⟨⟩⟩)
    · obtain ⟨_, _, ⟨⟩, -⟩ := readLines_eq_error_iff.1 failed
    · exact ⟨forall_valid_of_readLines read, length_of_readLines read, large⟩
  · rintro ⟨valid, rfl, large⟩
    obtain ⟨bytes, read⟩ := readLines_of_forall_valid 1 valid
    rw [← length_of_readLines read] at large ⊢
    exact .inr ⟨bytes, read, large, rfl⟩

end

theorem Holds.uncons {first : List Char} (held : Holds source (first :: contents)) :
    ∃ line rest, source = line ++ rest ∧ '\n' ∉ line ∧ uncomment line = first ∧
      ((rest = [] ∧ contents = []) ∨ ∃ text, rest = '\n' :: text ∧ Holds text contents) := by
  by_cases ended : '\n' ∈ source
  · obtain ⟨line, text, rfl, within⟩ := List.eq_append_cons_of_mem ended
    have whole := holds_iff.1 ((holds_iff.2 rfl : Holds text _).line_append within)
    rw [holds_iff.1 held] at whole
    obtain ⟨here, later⟩ := List.cons.inj whole
    exact ⟨line, _, rfl, within, here.symm, .inr ⟨text, rfl, holds_iff.2 later.symm⟩⟩
  -- an empty text has no line at all
  · have some : source ≠ [] := by
      rintro rfl
      cases holds_iff.1 held
    have whole := holds_iff.1 (holds_line ended some)
    rw [holds_iff.1 held] at whole
    obtain ⟨here, later⟩ := List.cons.inj whole
    exact ⟨source, [], (List.append_nil source).symm, ended, here.symm, .inl ⟨rfl, later⟩⟩

def EndsLine (rest : List Char) : Prop :=
  rest = [] ∨ rest.head? = some '\n'

theorem exists_holds_append {rest : List Char} (within : '\n' ∉ line) (some : line ≠ [])
    (ends : EndsLine rest) : ∃ after, Holds (line ++ rest) (uncomment line :: after) := by
  rcases ends with rfl | ends
  · rw [List.append_nil]
    exact ⟨[], holds_line within some⟩
  · obtain ⟨rest, rfl⟩ := List.head?_eq_some_iff.1 ends
    exact ⟨_, (holds_iff.2 rfl).line_append within⟩

theorem Holds.exists_front {before after : List (List Char)} (some : text ≠ [])
    (held : Holds source (before ++ text :: after)) :
    ∃ front rest, source = front ++ rest ∧ EndsLine rest ∧ front.count '\n' = before.length ∧
      ∀ other, EndsLine other → ∃ after', Holds (front ++ other) (before ++ text :: after') := by
  induction before generalizing source with
  | nil =>
    obtain ⟨line, rest, rfl, within, rfl, shape⟩ := held.uncons
    have ends : EndsLine rest := by
      rcases shape with ⟨rfl, -⟩ | ⟨text, rfl, -⟩
      · exact .inl rfl
      · exact .inr rfl
    have visible : line ≠ [] := by
      rintro rfl
      exact some rfl
    exact ⟨line, rest, rfl, ends, List.count_eq_zero.2 within,
      fun other => exists_holds_append within visible⟩
  | cons first before ih =>
    obtain ⟨line, _, rfl, within, rfl, ⟨-, none⟩ | ⟨text, rfl, later⟩⟩ := held.uncons
    · exact absurd none (List.append_ne_nil_of_right_ne_nil _ (List.cons_ne_nil _ _))
    · obtain ⟨front, rest, rfl, ends, count, same⟩ := ih later
      refine ⟨line ++ '\n' :: front, rest, by simp, ends, ?_, fun other ends => ?_⟩
      · rw [List.count_append, List.count_eq_zero.2 within, List.count_cons_self, count,
          Nat.zero_add, List.length_cons]
      · obtain ⟨after', held⟩ := same other ends
        refine ⟨after', ?_⟩
        rw [List.append_assoc]
        exact held.line_append within

theorem exists_front_of_parse {source : String} {number : Nat} {text : String}
    (h : parse source = .error (.invalidLine number text)) :
    ∃ front rest, source.toList = front ++ rest ∧ EndsLine rest ∧
      front.count '\n' + 1 = number ∧
      ∀ other, EndsLine other →
        parse (String.ofList (front ++ other)) = .error (.invalidLine number text) := by
  obtain ⟨contents, held, -⟩ := existsUnique_holds source.toList
  obtain ⟨before, after, rfl, rfl, valid, invalid⟩ := (parse_eq_invalidLine_iff held _ _).1 h
  obtain ⟨front, rest, split, ends, count, same⟩ := held.exists_front invalid.1
  refine ⟨front, rest, split, ends, by rw [count, Nat.add_comm], fun other ends => ?_⟩
  obtain ⟨after', held⟩ := same other ends
  rw [← String.toList_ofList (l := front ++ other)] at held
  exact (parse_eq_invalidLine_iff held _ _).2 ⟨before, after', rfl, rfl, valid, invalid⟩

/-- A text is rejected for its first invalid line, whatever comes after that line, and for its
size only where no line is invalid. -/
theorem rejection_exact :
    (∀ source, ∃! contents, Holds source contents) ∧
    ∀ (source : String) contents, Holds source.toList contents →
      (∀ number text, parse source = .error (.invalidLine number text) ↔
        FirstInvalid 1 contents number text.toList) ∧
      ((∃ number text, parse source = .error (.invalidLine number text)) ↔
        ∃ text ∈ contents, Invalid text) ∧
      (∀ size, parse source = .error (.programTooLarge size) ↔
        (∀ text ∈ contents, ¬ Invalid text) ∧
          size = (contents.countP fun text => !text.isEmpty) ∧ capacity < size) ∧
      ∀ number text, parse source = .error (.invalidLine number text) →
        ∃ front rest, source.toList = front ++ rest ∧ EndsLine rest ∧
          front.count '\n' + 1 = number ∧
          ∀ other, EndsLine other →
            parse (String.ofList (front ++ other)) = .error (.invalidLine number text) := by
  refine ⟨existsUnique_holds, fun source contents held => ⟨parse_eq_invalidLine_iff held, ?_,
    parse_eq_programTooLarge_iff held, fun number text => exists_front_of_parse⟩⟩
  constructor
  · rintro ⟨number, text, failed⟩
    obtain ⟨before, after, rfl, -, -, invalid⟩ := (parse_eq_invalidLine_iff held _ _).1 failed
    exact ⟨text.toList, by simp, invalid⟩
  · intro some
    obtain ⟨number, text, first⟩ := exists_firstInvalid 1 some
    refine ⟨number, String.ofList text, (parse_eq_invalidLine_iff held _ _).2 ?_⟩
    rwa [String.toList_ofList]

theorem rejection_exact_after_many :
    let many := (List.replicate 257 ['0', '\n']).flatten
    let source := "# many\n\n".toList ++ (many ++ " 102 # bad\n9".toList)
    parse (String.ofList source) = .error (.invalidLine 260 "102") ∧
      (¬ ∃ size, parse (String.ofList source) = .error (.programTooLarge size)) ∧
      ∃ front rest, source = front ++ rest ∧ front.count '\n' + 1 = 260 ∧
        parse (String.ofList front) = .error (.invalidLine 260 "102") := by
  intro many source
  let before : List (List Char) := [] :: [] :: List.replicate 257 ['0']
  have invalid : Invalid ['1', '0', '2'] := (invalid_iff (by decide)).2 ⟨.badDigit, rfl⟩
  have valid : ∀ text ∈ before, ¬ Invalid text := by
    have zero : ¬ Invalid ['0'] := by
      rw [invalid_iff (by decide)]
      rintro ⟨_, ⟨⟩⟩
    simp only [before, List.forall_mem_cons, List.mem_replicate]
    exact ⟨not_invalid_nil, not_invalid_nil, fun text mem => mem.2 ▸ zero⟩
  have count : 260 = 1 + before.length := by
    simp only [before, List.length_cons, List.length_replicate]
  have tail : Holds " 102 # bad\n9".toList [['1', '0', '2'], ['9']] := holds_iff.2 (by decide)
  have held : Holds source (before ++ ['1', '0', '2'] :: [['9']]) := by
    have zeros := tail.replicate_append (by decide : '\n' ∉ ['0']) 257
    exact (zeros.line_append (by decide : '\n' ∉ [])).line_append
      (by decide : '\n' ∉ "# many".toList)
  rw [← String.toList_ofList (l := source)] at held
  have law := rejection_exact.2 _ _ held
  have blamed : parse (String.ofList source) = .error (.invalidLine 260 "102") :=
    (law.1 260 "102").2 ⟨before, [['9']], rfl, count, valid, invalid⟩
  refine ⟨blamed, ?_, ?_⟩
  · rintro ⟨size, large⟩
    rw [blamed] at large
    cases large
  · obtain ⟨front, rest, split, -, ends, same⟩ := law.2.2.2 260 "102" blamed
    refine ⟨front, rest, ?_, ends, ?_⟩
    · rwa [String.toList_ofList] at split
    · have alone := same [] (.inl rfl)
      rwa [List.append_nil] at alone

end ByteMachine.Program
