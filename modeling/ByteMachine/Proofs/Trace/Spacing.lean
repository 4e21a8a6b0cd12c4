import ByteMachine.Proofs.Text.Numerals
import ByteMachine.Proofs.Text.Words
import ByteMachine.Trace.Frame

/-! The texts that stand for a frame. Only the words between the tag, the bars and the blanks
count, and of each word only the number that it spells. -/

namespace ByteMachine

namespace Text

variable {c : Char} {text front word : List Char} {list : List (List Char)}

inductive Separated : List (List Char) → List Char → Prop
  | nil : Separated [] []
  | cons {word gap rest : List Char} {words : List (List Char)} (blank : ∀ c ∈ gap, isBlank c)
      (apart : words ≠ [] → gap ≠ []) (others : Separated words rest) :
      Separated (word :: words) (word ++ gap ++ rest)

def Spread (list : List (List Char)) (text : List Char) : Prop :=
  ∃ front rest, text = front ++ rest ∧ (∀ c ∈ front, isBlank c) ∧ Separated list rest

theorem words_blanks_append (blank : ∀ c ∈ front, isBlank c) (text : List Char) :
    words (front ++ text) = words text := by
  induction front with
  | nil => rfl
  | cons c front ih =>
    rw [List.cons_append, words_cons_blank (blank c List.mem_cons_self),
      ih fun d mem => blank d (List.mem_cons_of_mem _ mem)]

theorem words_separated (h : Separated list text) (visible : ∀ word ∈ list, IsWord word) :
    words text = list := by
  induction h with
  | nil => rfl
  | @cons word gap rest others blank apart separated ih =>
    have first := words_of_isWord (visible word List.mem_cons_self)
    have rest := ih fun other mem => visible other (List.mem_cons_of_mem _ mem)
    cases gap with
    | nil =>
      have last : others = [] := Decidable.not_not.1 fun more => apart more rfl
      subst last
      cases separated
      rw [List.append_nil, List.append_nil, first]
    | cons c gap =>
      have blanks : ∀ d ∈ gap, isBlank d := fun d mem => blank d (List.mem_cons_of_mem _ mem)
      rw [List.append_assoc, List.cons_append, words_append_blank (blank c List.mem_cons_self),
        words_blanks_append blanks, first, rest, List.singleton_append]

theorem words_spread (h : Spread list text) (visible : ∀ word ∈ list, IsWord word) :
    words text = list := by
  obtain ⟨front, rest, rfl, blank, separated⟩ := h
  rw [words_blanks_append blank, words_separated separated visible]

theorem Separated.mem (h : Separated list text) (mem : c ∈ text) :
    isBlank c ∨ ∃ word ∈ list, c ∈ word := by
  induction h with
  | nil => cases mem
  | cons blank _ _ ih =>
    simp only [List.mem_append, or_assoc] at mem
    rcases mem with inside | among | later
    · exact .inr ⟨_, List.mem_cons_self, inside⟩
    · exact .inl (blank c among)
    · refine (ih later).imp_right ?_
      rintro ⟨word, mem, inside⟩
      exact ⟨word, List.mem_cons_of_mem _ mem, inside⟩

theorem Spread.mem (h : Spread list text) (mem : c ∈ text) :
    isBlank c ∨ ∃ word ∈ list, c ∈ word := by
  obtain ⟨front, rest, rfl, blank, separated⟩ := h
  rcases List.mem_append.1 mem with among | later
  · exact .inl (blank c among)
  · exact separated.mem later

theorem trim_spread_singleton (h : Spread [word] text) (trimmed : Trimmed word) :
    trim text = word := by
  obtain ⟨front, rest, rfl, blank, separated⟩ := h
  cases separated with
  | cons blank' _ others =>
    cases others
    rw [List.append_nil, ← List.append_assoc, trim_around blank blank' (.inr trimmed)]

theorem exists_separated_spaced {blanks : List Char} (blank : ∀ c ∈ blanks, isBlank c)
    (list : List (List Char)) :
    ∃ front rest, spaced list ++ blanks = front ++ rest ∧ (∀ c ∈ front, isBlank c) ∧
      Separated list rest ∧ (list ≠ [] → front ≠ []) := by
  induction list with
  | nil => exact ⟨blanks, [], (List.append_nil _).symm, blank, .nil, absurd rfl⟩
  | cons word list ih =>
    obtain ⟨gap, rest, split, blankGap, separated, apart⟩ := ih
    refine ⟨[' '], word ++ gap ++ rest, ?_, List.forall_mem_singleton.2 (by decide),
      .cons blankGap apart separated, nofun⟩
    rw [List.append_assoc, ← split]
    simp only [spaced, List.flatMap_cons, List.cons_append, List.append_assoc, List.nil_append]

theorem spread_spaced {blanks : List Char} (blank : ∀ c ∈ blanks, isBlank c)
    (list : List (List Char)) : Spread list (spaced list ++ blanks) := by
  obtain ⟨front, rest, split, blankFront, separated, -⟩ := exists_separated_spaced blank list
  exact ⟨front, rest, split, blankFront, separated⟩

theorem words_trimEnd (text : List Char) : words (trimEnd text) = words text := by
  obtain ⟨back, split, blank⟩ := trimEnd_eq_append text
  have all : words (trimEnd text ++ back) = words (trimEnd text) := by
    cases back with
    | nil => rw [List.append_nil]
    | cons c back =>
      have nothing := words_blanks_append (fun d mem => blank d (List.mem_cons_of_mem _ mem)) []
      rw [List.append_nil] at nothing
      rw [words_append_blank (blank c List.mem_cons_self), nothing]
      exact List.append_nil _
  rw [← all, ← split]

theorem trimEnd_append_cons (visible : isBlank c = false) (front text : List Char) :
    trimEnd (front ++ c :: text) = front ++ c :: trimEnd text := by
  have shown : ¬ isBlank c = true := ne_true_of_eq_false visible
  have cut : (text.reverse ++ c :: front.reverse).dropWhile isBlank =
      text.reverse.dropWhile isBlank ++ c :: front.reverse := by
    rw [List.dropWhile_append, List.dropWhile_cons_of_neg shown]
    split
    · rename_i none
      rw [List.isEmpty_iff.1 none, List.nil_append]
    · rfl
  have reversed : (front ++ c :: text).reverse = text.reverse ++ c :: front.reverse := by
    rw [List.reverse_append, List.reverse_cons, List.append_assoc, List.singleton_append]
  rw [trimEnd, reversed, cut, List.reverse_append, List.reverse_cons, List.reverse_reverse,
    List.append_assoc, List.singleton_append, trimEnd]

end Text

namespace Trace

open Text (IsWord Spread)

theorem isWord_tag : IsWord tag :=
  Text.isWord_of_all (by decide) (by decide)

def IsNumeral (word : List Char) : Prop :=
  ∃ n, Numeral.Spells 16 word n

theorem IsNumeral.exists_digit {word : List Char} {c : Char} (h : IsNumeral word) (mem : c ∈ word) :
    ∃ digit < 16, c = digit.digitChar ∨ c = digit.digitChar.toUpper := by
  obtain ⟨n, spelled⟩ := h
  obtain ⟨digit, small, shown⟩ := spelled.exists_isDigit mem
  exact ⟨digit, small, shown⟩

theorem IsNumeral.isWord {word : List Char} (h : IsNumeral word) : IsWord word where
  ne_nil := by
    obtain ⟨n, spelled⟩ := h
    exact spelled.1
  visible c mem := by
    have visible : ∀ digit < 16, Text.isBlank digit.digitChar = false ∧
        Text.isBlank digit.digitChar.toUpper = false := by decide
    obtain ⟨digit, small, rfl | rfl⟩ := h.exists_digit mem
    · exact (visible digit small).1
    · exact (visible digit small).2

structure Group (list : List (List Char)) (text : List Char) : Prop where
  spread : Spread list text
  numerals : ∀ word ∈ list, IsNumeral word

theorem Group.words_eq {list : List (List Char)} {text : List Char} (h : Group list text) :
    Text.words text = list :=
  Text.words_spread h.spread fun word mem => (h.numerals word mem).isWord

theorem Group.trim_eq {word text : List Char} (h : Group [word] text) : Text.trim text = word :=
  Text.trim_spread_singleton h.spread (h.numerals word List.mem_cons_self).isWord.trimmed

theorem Group.not_mem {c : Char} {list : List (List Char)} {text : List Char} (h : Group list text)
    (visible : Text.isBlank c = false)
    (other : ∀ digit < 16, c ≠ digit.digitChar ∧ c ≠ digit.digitChar.toUpper) : c ∉ text := by
  intro mem
  rcases h.spread.mem mem with blank | ⟨word, among, inside⟩
  · exact Bool.false_ne_true (visible.symm.trans blank)
  · obtain ⟨digit, small, shown⟩ := (h.numerals word among).exists_digit inside
    exact shown.elim (other digit small).1 (other digit small).2

theorem Group.trimEnd {list : List (List Char)} {text : List Char} (h : Group list text) :
    '|' ∉ Text.trimEnd text :=
  fun mem => h.not_mem (by decide) (by decide) (Text.mem_of_mem_trimEnd mem)

theorem dropTags_of_head {text : List Char} (h : text.head? ≠ some 'T') : dropTags text = text := by
  unfold dropTags
  split
  · exact absurd rfl h
  · rfl

theorem dropTags_group {list : List (List Char)} {first : List Char} (h : Group list first)
    (rest : List Char) : dropTags (tag ++ (first ++ '|' :: rest)) = first ++ '|' :: rest := by
  have untagged : (first ++ '|' :: rest).head? ≠ some 'T' := by
    cases first with
    | nil =>
      rintro ⟨⟩
    | cons c first =>
      have other : 'T' ∉ c :: first := h.not_mem (by decide) (by decide)
      rintro ⟨⟩
      exact other List.mem_cons_self
  exact dropTags_of_head untagged

def Laid (pc : List Char) (bytes registers : List (List Char)) (text : List Char) : Prop :=
  ∃ front first second third,
    text = front ++ (tag ++ (first ++ '|' :: (second ++ '|' :: third))) ∧
    (∀ c ∈ front, Text.isBlank c) ∧ Group [pc] first ∧ Group bytes second ∧ Group registers third

theorem Laid.sections {pc text : List Char} {bytes registers : List (List Char)}
    (h : Laid pc bytes registers text) :
    ∃ first second third, (dropTags (Text.trim text)).splitOn '|' = [first, second, third] ∧
      Text.trim first = pc ∧ Text.words second = bytes ∧ Text.words third = registers := by
  obtain ⟨front, first, second, third, rfl, blank, groupPc, groupBytes, groupRegisters⟩ := h
  refine ⟨first, second, Text.trimEnd third, ?_, groupPc.trim_eq, groupBytes.words_eq, ?_⟩
  · have last := Text.trimEnd_append_cons (c := '|') (by decide)
      (tag ++ (first ++ '|' :: second)) third
    simp only [List.append_assoc, List.cons_append] at last
    rw [Text.trim, Text.trimStart_append_blanks blank, isWord_tag.trimmed.trimStart_append, last,
      dropTags_group groupPc, List.splitOn_append_cons_self_of_not_mem
        (groupPc.not_mem (by decide) (by decide)),
      List.splitOn_append_cons_self_of_not_mem (groupBytes.not_mem (by decide) (by decide)),
      List.splitOn_eq_singleton groupRegisters.trimEnd]
  · rw [Text.words_trimEnd, groupRegisters.words_eq]

theorem mapM_eq_ok {α β ε : Type} {f : α → Except ε β} {as : List α} {bs : List β}
    (h : List.Forall₂ (fun a b => f a = .ok b) as bs) : as.mapM f = .ok bs := by
  induction h with
  | nil => rfl
  | cons first _ ih =>
    rw [List.mapM_cons, first, ih]
    rfl

theorem mapM_vector_eq_ok {α β ε : Type} {n : Nat} {f : α → Except ε β} {as : Vector α n}
    {bs : Vector β n} (h : List.Forall₂ (fun a b => f a = .ok b) as.toList bs.toList) :
    as.mapM f = .ok bs := by
  have list := mapM_eq_ok h
  rw [Vector.toList, ← Array.toList_mapM, ← Vector.toArray_mapM] at list
  cases mapped : as.mapM f with
  | error error =>
    rw [mapped] at list
    cases list
  | ok cs =>
    rw [mapped] at list
    exact congrArg Except.ok (Vector.toList_inj.1 (Except.ok.inj list))

theorem readBytes_of_words {count : Nat} {text : List Char} {values : Vector UInt8 count}
    (h : List.Forall₂ (fun word value => Numeral.readByte 16 word = .ok value)
      (Text.words text) values.toList) : readBytes count text = .ok values := by
  have enough : (Text.words text).length = count := by rw [h.length_eq, Vector.length_toList]
  have all : (Vector.ofFn fun i : Fin count => (Text.words text).getD i []).toList =
      Text.words text := by
    refine List.ext_getElem (by rw [Vector.length_toList, enough]) fun i _ within => ?_
    rw [Vector.getElem_toList, Vector.getElem_ofFn, List.getD_eq_getElem?_getD,
      List.getElem?_eq_getElem within, Option.getD_some]
  rw [← all] at h
  exact mapM_vector_eq_ok h

def bytesOf (instruction : Instruction) : Vector UInt8 3 :=
  #v[instruction.code, instruction.first, instruction.second]

def Spelled (list : List (List Char)) (bytes : List UInt8) : Prop :=
  List.Forall₂ (fun word byte => Numeral.Spells 16 word byte.toNat) list bytes

theorem Spelled.group {list : List (List Char)} {bytes : List UInt8} {text : List Char}
    (h : Spelled list bytes) (spread : Spread list text) : Group list text where
  spread := spread
  numerals word mem := by
    obtain ⟨byte, spelled⟩ := exists_of_forall₂ h mem
    exact ⟨byte.toNat, spelled⟩

theorem readByte_of_spells {word : List Char} {byte : UInt8}
    (h : Numeral.Spells 16 word byte.toNat) : Numeral.readByte 16 word = .ok byte :=
  (Numeral.readByte_eq_ok_iff (by decide) (by decide)).2 ⟨word, .inl rfl, h⟩

theorem readBytes_of_spelled {count : Nat} {list : List (List Char)} {text : List Char}
    {values : Vector UInt8 count} (words : Text.words text = list)
    (h : Spelled list values.toList) : readBytes count text = .ok values := by
  refine readBytes_of_words (words ▸ h.imp fun _ _ spelled => ?_)
  exact readByte_of_spells spelled

end Trace

/-- The spacing, the letter case and the zeros in front are all left open. -/
def Frame.Writes (frame : Frame) (text : List Char) : Prop :=
  ∃ pc bytes registers, Trace.Laid pc bytes registers text ∧
    Numeral.Spells 16 pc frame.pc.toNat ∧
    Trace.Spelled bytes (Trace.bytesOf frame.instruction).toList ∧
    Trace.Spelled registers frame.registers.toList

theorem Frame.Writes.readFrame_eq {frame : Frame} {text : List Char} (h : frame.Writes text) :
    Trace.readFrame text = .ok frame := by
  obtain ⟨pc, bytes, registers, laid, spelledPc, spelledBytes, spelledRegisters⟩ := h
  obtain ⟨first, second, third, sections, trimmed, wordsBytes, wordsRegisters⟩ := laid.sections
  have readPc := Trace.readByte_of_spells spelledPc
  have readBytes : Trace.readBytes 3 second = .ok (Trace.bytesOf frame.instruction) :=
    Trace.readBytes_of_spelled wordsBytes spelledBytes
  have readRegisters : Trace.readBytes 8 third = .ok frame.registers :=
    Trace.readBytes_of_spelled wordsRegisters spelledRegisters
  rw [Trace.readFrame, sections]
  simp only [List.getD_cons_zero, List.getD_cons_succ, trimmed, readPc, readBytes, readRegisters]
  rfl

end ByteMachine
