import ByteMachine.Text.Blank
import ByteMachine.Text.Digits

/-! Characters of one kind in a row: blanks between words and at the ends of a text, and the digits
of a number, none of which is one. -/

namespace ByteMachine.Text

section

variable {p : Char → Bool} {inside after : List Char}

def Stops (p : Char → Bool) (after : List Char) : Prop :=
  ∀ c, after.head? = some c → p c = false

theorem takeWhile_append_of_stops (all : ∀ c ∈ inside, p c) (stops : Stops p after) :
    (inside ++ after).takeWhile p = inside := by
  rw [List.takeWhile_append_of_pos all]
  cases after with
  | nil => exact List.append_nil inside
  | cons c rest => rw [List.takeWhile_cons_of_neg (by simp [stops c rfl]), List.append_nil]

theorem dropWhile_append_of_stops (all : ∀ c ∈ inside, p c) (stops : Stops p after) :
    (inside ++ after).dropWhile p = after := by
  rw [List.dropWhile_append_of_pos all]
  cases after with
  | nil => rfl
  | cons c rest => exact List.dropWhile_cons_of_neg (by simp [stops c rfl])

theorem stops_dropWhile (text : List Char) : Stops p (text.dropWhile p) := by
  intro c first
  have outside := List.head?_dropWhile_not p text
  rwa [first] at outside

end

variable {c : Char} {text rest word : List Char}

theorem trimStart_cons (h : isBlank c = false) : trimStart (c :: text) = c :: text :=
  List.dropWhile_cons_of_neg (by simp only [h, Bool.false_eq_true, not_false_eq_true])

theorem trimEnd_append_blank (h : isBlank c) : trimEnd (text ++ [c]) = trimEnd text := by
  rw [trimEnd, List.reverse_append, List.reverse_singleton, List.singleton_append,
    List.dropWhile_cons_of_pos h, trimEnd]

theorem trimEnd_append (h : isBlank c = false) : trimEnd (text ++ [c]) = text ++ [c] := by
  rw [trimEnd, List.reverse_append, List.reverse_singleton, List.singleton_append,
    List.dropWhile_cons_of_neg (by simp only [h, Bool.false_eq_true, not_false_eq_true]),
    List.reverse_cons, List.reverse_reverse]

theorem mem_of_mem_trimEnd (h : c ∈ trimEnd text) : c ∈ text :=
  List.mem_reverse.1 ((List.dropWhile_suffix _).subset (List.mem_reverse.1 h))

theorem mem_of_mem_trim (h : c ∈ trim text) : c ∈ text :=
  (List.dropWhile_suffix _).subset (mem_of_mem_trimEnd h)

theorem mem_trimStart (visible : isBlank c = false) (mem : c ∈ text) : c ∈ trimStart text := by
  rw [← List.takeWhile_append_dropWhile (p := isBlank) (l := text), List.mem_append] at mem
  refine mem.resolve_left fun blank => ?_
  have blank := List.all_eq_true.1 List.all_takeWhile c blank
  exact Bool.false_ne_true (visible.symm.trans blank)

theorem mem_trim (visible : isBlank c = false) (mem : c ∈ text) : c ∈ trim text :=
  List.mem_reverse.2 (mem_trimStart visible (List.mem_reverse.2 (mem_trimStart visible mem)))

structure Trimmed (text : List Char) : Prop where
  first : ∃ c rest, text = c :: rest ∧ isBlank c = false
  last : ∃ front c, text = front ++ [c] ∧ isBlank c = false

theorem Trimmed.trimStart_append (h : Trimmed text) (rest : List Char) :
    trimStart (text ++ rest) = text ++ rest := by
  obtain ⟨c, rest', rfl, visible⟩ := h.first
  exact trimStart_cons visible

theorem Trimmed.trimEnd_eq (h : Trimmed text) : trimEnd text = text := by
  obtain ⟨front, c, rfl, visible⟩ := h.last
  exact trimEnd_append visible

theorem Trimmed.trim_eq (h : Trimmed text) : trim text = text := by
  have start := h.trimStart_append []
  rw [List.append_nil] at start
  rw [trim, start, h.trimEnd_eq]

theorem Trimmed.append {back : List Char} (front : Trimmed text) (middle : List Char)
    (finish : Trimmed back) : Trimmed (text ++ middle ++ back) where
  first := by
    obtain ⟨c, rest, rfl, visible⟩ := front.first
    exact ⟨c, rest ++ middle ++ back, rfl, visible⟩
  last := by
    obtain ⟨start, c, rfl, visible⟩ := finish.last
    exact ⟨text ++ middle ++ start, c, (List.append_assoc ..).symm, visible⟩

theorem trimStart_append_blanks {blanks : List Char} (h : ∀ c ∈ blanks, isBlank c)
    (text : List Char) : trimStart (blanks ++ text) = trimStart text :=
  List.dropWhile_append_of_pos h

theorem trimEnd_append_blanks {blanks : List Char} (h : ∀ c ∈ blanks, isBlank c)
    (text : List Char) : trimEnd (text ++ blanks) = trimEnd text := by
  rw [trimEnd, List.reverse_append,
    List.dropWhile_append_of_pos fun c mem => h c (List.mem_reverse.1 mem), trimEnd]

theorem trimStart_eq_append (text : List Char) :
    ∃ front, text = front ++ trimStart text ∧ ∀ c ∈ front, isBlank c :=
  ⟨text.takeWhile isBlank, List.takeWhile_append_dropWhile.symm,
    List.all_eq_true.1 List.all_takeWhile⟩

theorem trimEnd_eq_append (text : List Char) :
    ∃ back, text = trimEnd text ++ back ∧ ∀ c ∈ back, isBlank c := by
  obtain ⟨front, split, blank⟩ := trimStart_eq_append text.reverse
  refine ⟨front.reverse, ?_, fun c mem => blank c (List.mem_reverse.1 mem)⟩
  have whole := congrArg List.reverse split
  rwa [List.reverse_reverse, List.reverse_append] at whole

theorem trim_eq_append (text : List Char) :
    ∃ front back, text = front ++ trim text ++ back ∧ (∀ c ∈ front, isBlank c) ∧
      ∀ c ∈ back, isBlank c := by
  obtain ⟨front, opening, blankFront⟩ := trimStart_eq_append text
  obtain ⟨back, closing, blankBack⟩ := trimEnd_eq_append (trimStart text)
  refine ⟨front, back, ?_, blankFront, blankBack⟩
  rw [List.append_assoc, trim, ← closing, ← opening]

theorem trim_blanks (h : ∀ c ∈ text, isBlank c) : trim text = [] := by
  have start := trimStart_append_blanks h []
  rw [List.append_nil] at start
  rw [trim, start]
  rfl

theorem trim_around {front back : List Char} (blankFront : ∀ c ∈ front, isBlank c)
    (blankBack : ∀ c ∈ back, isBlank c) (h : text = [] ∨ Trimmed text) :
    trim (front ++ text ++ back) = text := by
  rw [List.append_assoc, trim, trimStart_append_blanks blankFront]
  rcases h with rfl | trimmed
  · exact trim_blanks blankBack
  · rw [trimmed.trimStart_append, trimEnd_append_blanks blankBack, trimmed.trimEnd_eq]

theorem visible_of_trimStart (h : trimStart text = c :: rest) : isBlank c = false := by
  have first := List.head?_dropWhile_not isBlank text
  rw [trimStart] at h
  rwa [h] at first

theorem visible_of_trimEnd {front : List Char} (h : trimEnd text = front ++ [c]) :
    isBlank c = false := by
  have reversed : trimStart text.reverse = c :: front.reverse := by
    have reversed := congrArg List.reverse h
    rwa [trimEnd, List.reverse_reverse, List.reverse_append] at reversed
  exact visible_of_trimStart reversed

theorem trimmed_trim (some : trim text ≠ []) : Trimmed (trim text) where
  first := by
    obtain ⟨c, rest, shown⟩ := List.exists_cons_of_ne_nil some
    obtain ⟨back, split, -⟩ := trimEnd_eq_append (trimStart text)
    rw [← trim, shown, List.cons_append] at split
    exact ⟨c, rest, shown, visible_of_trimStart split⟩
  last := by
    rcases List.eq_nil_or_concat (trim text) with empty | ⟨front, c, shown⟩
    · exact absurd empty some
    · rw [List.concat_eq_append] at shown
      exact ⟨front, c, shown, visible_of_trimEnd shown⟩

structure IsWord (word : List Char) : Prop where
  ne_nil : word ≠ []
  visible : ∀ c ∈ word, isBlank c = false

theorem IsWord.trimmed (h : IsWord word) : Trimmed word where
  first := by
    obtain ⟨c, rest, rfl⟩ := List.exists_cons_of_ne_nil h.ne_nil
    exact ⟨c, rest, rfl, h.visible c List.mem_cons_self⟩
  last := by
    rcases List.eq_nil_or_concat word with rfl | ⟨front, c, rfl⟩
    · exact absurd rfl h.ne_nil
    · exact ⟨front, c, List.concat_eq_append, h.visible c (by simp only [List.concat_eq_append,
        List.mem_append, List.mem_singleton, or_true])⟩

theorem IsWord.not_mem (h : IsWord word) (blank : isBlank c) : c ∉ word := by
  intro mem
  rw [h.visible c mem] at blank
  cases blank

theorem isWord_of_all (ne_nil : word ≠ []) (h : word.all fun c => !isBlank c) : IsWord word where
  ne_nil := ne_nil
  visible c mem := by simpa only [Bool.not_eq_true'] using List.all_eq_true.1 h c mem

theorem words_append_blank (h : isBlank c) (text rest : List Char) :
    words (text ++ c :: rest) = words text ++ words rest := by
  rw [words, List.splitOnP_append_cons text rest h, List.filter_append, words, words]

theorem words_cons_blank (h : isBlank c) (text : List Char) : words (c :: text) = words text :=
  words_append_blank h [] text

theorem words_of_isWord (h : IsWord word) : words word = [word] := by
  rw [words, List.splitOnP_eq_singleton h.visible, List.filter_cons_of_pos, List.filter_nil]
  simpa only [Bool.not_eq_true', List.isEmpty_eq_false_iff] using h.ne_nil

def spaced (words : List (List Char)) : List Char :=
  words.flatMap (' ' :: ·)

theorem toList_join_spaced {α : Type} (text : α → String) (list : List α) :
    (String.join (list.map fun a => " " ++ text a)).toList =
      spaced (list.map fun a => (text a).toList) := by
  have each (a : α) : (" " ++ text a).toList = ' ' :: (text a).toList := String.toList_append
  simp only [String.toList_join, List.flatMap_map, each, spaced]

theorem not_mem_spaced {list : List (List Char)} (visible : c ≠ ' ') (h : ∀ word ∈ list, c ∉ word) :
    c ∉ spaced list := by
  intro mem
  obtain ⟨word, among, inside⟩ := List.mem_flatMap.1 mem
  rcases List.mem_cons.1 inside with rfl | inside
  · exact visible rfl
  · exact h word among inside

def hexAlphabet : List Char :=
  ['0', '1', '2', '3', '4', '5', '6', '7', '8', '9', 'A', 'B', 'C', 'D', 'E', 'F']

theorem isWord_hexAlphabet : IsWord hexAlphabet :=
  isWord_of_all (by decide) (by decide)

theorem mem_hexAlphabet_of_mem_hexDigits {n : Nat} (h : c ∈ hexDigits n) : c ∈ hexAlphabet := by
  have digit : ∀ d < 16, (Nat.digitChar d).toUpper ∈ hexAlphabet := by decide
  induction n using Nat.strongRecOn with
  | ind n ih =>
    unfold hexDigits at h
    rcases Nat.lt_or_ge n 16 with small | large
    · rw [Nat.toDigits_of_lt_base small, List.map_singleton, List.mem_singleton] at h
      exact h ▸ digit n small
    · rw [Nat.toDigits_of_base_le (by decide) large, List.map_append, List.mem_append,
        List.map_singleton, List.mem_singleton] at h
      rcases h with front | rfl
      · exact ih (n / 16) (by omega) front
      · exact digit _ (Nat.mod_lt _ (by decide))

theorem mem_hexAlphabet_of_mem_hexPair {n : Nat} (h : c ∈ (hexPair n).toList) :
    c ∈ hexAlphabet := by
  rw [hexPair, String.toList_ofList, List.leftpad, List.mem_append] at h
  rcases h with padding | digits
  · rw [List.eq_of_mem_replicate padding]
    decide
  · exact mem_hexAlphabet_of_mem_hexDigits digits

theorem isWord_hexPair (n : Nat) : IsWord (hexPair n).toList where
  ne_nil := by
    rw [hexPair, String.toList_ofList, List.leftpad, hexDigits]
    exact List.append_ne_nil_of_right_ne_nil _ (by simp only [ne_eq, List.map_eq_nil_iff,
      Nat.toDigits_ne_nil, not_false_eq_true])
  visible c h := isWord_hexAlphabet.visible c (mem_hexAlphabet_of_mem_hexPair h)

end ByteMachine.Text
