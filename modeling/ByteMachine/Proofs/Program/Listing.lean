import ByteMachine.Proofs.Program.Encoding

/-! Programs written out with a byte on a row, and read back. -/

namespace ByteMachine.Program

section

variable {line text : List Char} {c : Char} {bytes : List UInt8}

theorem Content.append_blank (h : Content line text) (blank : Text.isBlank c) :
    Content (line ++ [c]) text := by
  obtain ⟨front, back, comment, rfl, blankFront, blankBack, within, marked, trimmed⟩ := h
  rcases marked with rfl | marked
  · refine ⟨front, back ++ [c], [], ?_, blankFront, ?_, within, .inl rfl, trimmed⟩
    · simp only [List.append_assoc, List.append_nil]
    · intro d mem
      rcases List.mem_append.1 mem with among | last
      · exact blankBack d among
      · exact List.mem_singleton.1 last ▸ blank
  · obtain ⟨remark, rfl⟩ := List.head?_eq_some_iff.1 marked
    exact ⟨front, back, commentMark :: (remark ++ [c]), by simp, blankFront, blankBack, within,
      .inr rfl, trimmed⟩

theorem uncomment_append_blank (blank : Text.isBlank c) (line : List Char) :
    uncomment (line ++ [c]) = uncomment line :=
  ((content_uncomment line).append_blank blank).uncomment_eq

theorem uncomment_chomp (line : List Char) :
    uncomment (Text.chomp (line ++ ['\n'])) = uncomment line := by
  by_cases bare : line.getLast? = some '\r'
  · obtain ⟨front, rfl⟩ := List.getLast?_eq_some_iff.1 bare
    have chomped := Text.chomp_carriageReturn front
    rw [List.append_assoc, List.singleton_append, chomped, uncomment_append_blank (by decide)]
  · rw [Text.chomp_lineFeed bare]

def numerals (source : List Char) : List (List Char) :=
  ((Text.lines source).map uncomment).filter fun text => !text.isEmpty

theorem encodes_iff_numerals {source : List Char} :
    Encodes source bytes ↔
      List.Forall₂ (fun text byte => Numeral.Denotes 2 text byte.toNat) (numerals source) bytes :=
  encodes_iff.trans (readLines_eq_ok_iff 1)

theorem numerals_line (within : '\n' ∉ line) :
    numerals line = [uncomment line].filter fun text => !text.isEmpty := by
  by_cases empty : line = []
  · rw [empty]
    rfl
  · rw [numerals, Text.lines_unended empty within, List.map_singleton]

theorem numerals_append (within : '\n' ∉ line) (rest : List Char) :
    numerals (line ++ '\n' :: rest) = numerals line ++ numerals rest := by
  rw [numerals_line within, numerals, Text.lines_append within, List.map_cons, uncomment_chomp,
    ← List.singleton_append, List.filter_append, numerals]

def octet (byte : UInt8) : List Char :=
  (Nat.toDigits 2 byte.toNat).leftpad 8 '0'

theorem length_octet (byte : UInt8) : (octet byte).length = 8 := by
  have few : (Nat.toDigits 2 byte.toNat).length ≤ 8 :=
    (Nat.length_toDigits_le_iff (by decide) (by decide)).2 byte.toNat_lt
  rw [octet, List.length_leftpad, Nat.max_eq_left few]

theorem spells_octet (byte : UInt8) : Numeral.Spells 2 (octet byte) byte.toNat :=
  Numeral.spells_leftpad (by decide) 8 byte.toNat

theorem mem_octet {byte : UInt8} (mem : c ∈ octet byte) : c = '0' ∨ c = '1' := by
  obtain ⟨digit, shown⟩ := (spells_octet byte).exists_isDigit mem
  exact shown.zero_or_one

theorem isWord_octet (byte : UInt8) : Text.IsWord (octet byte) where
  ne_nil := (spells_octet byte).1
  visible c mem := by
    rcases mem_octet mem with rfl | rfl <;> decide

end

structure Row where
  indent : List Char := []
  byte : Option UInt8 := none
  gap : List Char := []
  remark : Option (List Char) := none
  blankIndent : indent.all Text.isBlank := by decide
  blankGap : gap.all Text.isBlank := by decide
  within : '\n' ∉ indent ++ gap ++ remark.getD [] := by decide

namespace Row

variable (row : Row)

def numeral : List Char :=
  match row.byte with
  | none => []
  | some byte => octet byte

def comment : List Char :=
  match row.remark with
  | none => []
  | some remark => commentMark :: remark

def line : List Char :=
  row.indent ++ row.numeral ++ row.gap ++ row.comment

theorem numeral_eq : row.numeral = [] ∨ ∃ byte, row.numeral = octet byte := by
  unfold numeral
  split
  · exact .inl rfl
  · exact .inr ⟨_, rfl⟩

theorem comment_eq : row.comment = [] ∨ row.comment.head? = some commentMark := by
  unfold comment
  split
  · exact .inl rfl
  · exact .inr rfl

theorem not_mem_numeral {c : Char} (h : c ≠ '0') (h' : c ≠ '1') : c ∉ row.numeral := by
  intro mem
  rcases row.numeral_eq with empty | ⟨byte, shown⟩
  · rw [empty] at mem
    cases mem
  · rw [shown] at mem
    exact (mem_octet mem).elim h h'

theorem content_line : Content row.line row.numeral := by
  refine ⟨row.indent, row.gap, row.comment, rfl, List.all_eq_true.1 row.blankIndent,
    List.all_eq_true.1 row.blankGap, row.not_mem_numeral (by decide) (by decide), row.comment_eq,
    ?_⟩
  rcases row.numeral_eq with empty | ⟨byte, shown⟩
  · exact .inl empty
  · exact .inr (shown ▸ (isWord_octet byte).trimmed)

theorem lineFeed_not_mem_line : '\n' ∉ row.line := by
  have within := row.within
  have outside : '\n' ∉ row.numeral := row.not_mem_numeral (by decide) (by decide)
  have remark : '\n' ∉ row.comment ↔ '\n' ∉ row.remark.getD [] := by
    cases h : row.remark <;> simp [comment, h, commentMark]
  simp only [line, List.mem_append, not_or] at within ⊢
  exact ⟨⟨⟨within.1.1, outside⟩, within.1.2⟩, remark.2 within.2⟩

theorem numerals_line : numerals row.line = (row.byte.map octet).toList := by
  rw [Program.numerals_line row.lineFeed_not_mem_line, row.content_line.uncomment_eq, numeral]
  cases row.byte with
  | none => rfl
  | some byte =>
    have visible : (octet byte).isEmpty = false :=
      List.isEmpty_eq_false_iff.2 (isWord_octet byte).ne_nil
    exact List.filter_cons_of_pos (by simp [visible])

theorem numerals_line_append (rows : List Row) :
    numerals row.line ++ (rows.filterMap Row.byte).map octet =
      ((row :: rows).filterMap Row.byte).map octet := by
  rw [row.numerals_line]
  cases byte : row.byte with
  | none => rw [List.filterMap_cons_none byte, Option.map_none, Option.toList_none, List.nil_append]
  | some value =>
    rw [List.filterMap_cons_some byte, Option.map_some, Option.toList_some, List.singleton_append,
      List.map_cons]

end Row

def listing (rows : List Row) (last : Row) : List Char :=
  rows.flatMap (fun row => row.line ++ ['\n']) ++ last.line

theorem listing_cons (row : Row) (rows : List Row) (last : Row) :
    listing (row :: rows) last = row.line ++ '\n' :: listing rows last := by
  simp only [listing, List.flatMap_cons, List.append_assoc, List.cons_append, List.nil_append]

theorem numerals_listing (rows : List Row) (last : Row) :
    numerals (listing rows last) = ((rows ++ [last]).filterMap Row.byte).map octet := by
  induction rows with
  | nil =>
    have single := last.numerals_line_append []
    rwa [List.filterMap_nil, List.map_nil, List.append_nil] at single
  | cons row rows ih =>
    rw [listing_cons, numerals_append row.lineFeed_not_mem_line, ih, row.numerals_line_append]
    rfl

theorem encodes_listing (rows : List Row) (last : Row) :
    Encodes (listing rows last) ((rows ++ [last]).filterMap Row.byte) := by
  rw [encodes_iff_numerals, numerals_listing, List.forall₂_map_left_iff, List.forall₂_same]
  intro byte _
  exact ⟨octet byte, .inl rfl, spells_octet byte⟩

theorem parse_listing {rows : List Row} {last : Row} {bytes : List UInt8}
    (holds : (rows ++ [last]).filterMap Row.byte = bytes) (fits : bytes.length ≤ capacity) :
    parse (String.ofList (listing rows last)) = .ok bytes := by
  rw [parse_eq_ok_iff, String.toList_ofList, ← holds]
  exact ⟨holds ▸ fits, encodes_listing rows last⟩

end ByteMachine.Program
