import Mathlib.Logic.ExistsUnique
import Mathlib.Tactic.SplitIfs
import ByteMachine.Debugger.Command
import ByteMachine.Proofs.Text.Words

/-! The grammar of the words on a debugger line, and the one way to read a line by it. -/

namespace ByteMachine.Debugger

open Text

section

variable {line text ends : List Char}

def Unended (text : List Char) : Prop :=
  ∀ c, text.getLast? = some c → c ≠ '\n' ∧ c ≠ '\r'

def Stripped (line text : List Char) : Prop :=
  ∃ ends, line = text ++ ends ∧ (∀ c ∈ ends, c = '\n' ∨ c = '\r') ∧ Unended text

theorem unended_of_forall (h : ∀ c ∈ text, c ≠ '\n' ∧ c ≠ '\r') : Unended text :=
  fun c last => h c (List.mem_of_getLast? last)

theorem Unended.append {front back : List Char} (h : Unended front) (h' : Unended back) :
    Unended (front ++ back) := by
  intro c last
  rw [List.getLast?_append, Option.or_eq_some_iff] at last
  rcases last with last | ⟨-, last⟩
  · exact h' c last
  · exact h c last

theorem isLineEnd_iff {c : Char} : isLineEnd c ↔ c = '\n' ∨ c = '\r' := by
  simp [isLineEnd]

theorem stripped_iff : Stripped line text ↔ dropLineEnds line = text := by
  constructor
  · rintro ⟨ends, rfl, all, last⟩
    have stops : Stops isLineEnd text.reverse := by
      intro c first
      rw [List.head?_reverse] at first
      simpa [isLineEnd] using last c first
    have dropped : (ends.reverse ++ text.reverse).dropWhile isLineEnd = text.reverse :=
      dropWhile_append_of_stops
        (fun c mem => isLineEnd_iff.2 (all c (List.mem_reverse.1 mem))) stops
    rw [dropLineEnds, List.reverse_append, dropped, List.reverse_reverse]
  · rintro rfl
    refine ⟨(line.reverse.takeWhile isLineEnd).reverse, ?_, ?_, ?_⟩
    · rw [dropLineEnds, ← List.reverse_append, List.takeWhile_append_dropWhile,
        List.reverse_reverse]
    · intro c mem
      exact isLineEnd_iff.1 (List.all_eq_true.1 List.all_takeWhile c (List.mem_reverse.1 mem))
    · intro c last
      rw [dropLineEnds, List.getLast?_reverse] at last
      simpa [isLineEnd] using stops_dropWhile line.reverse c last

theorem existsUnique_stripped (line : List Char) : ∃! text, Stripped line text :=
  ⟨_, stripped_iff.2 rfl, fun _ stripped => (stripped_iff.1 stripped).symm⟩

end

inductive Piece where
  | gap (c : Char)
  | quoted (text : List Char)
  | bare (text : List Char)

namespace Piece

def written : Piece → List Char
  | gap c => [c]
  | quoted text => '"' :: text ++ ['"']
  | bare text => text

def argument? : Piece → Option (List Char)
  | gap _ => none
  | quoted text | bare text => some text

/-- Whether it is a piece where the text goes on as given. Only for an argument without quotes
does it matter how: such an argument is not over before a blank or the end. -/
def Before (after : List Char) : Piece → Prop
  | gap c => c = ' ' ∨ c = '\t'
  | quoted text => '"' ∉ text
  | bare text =>
    (∃ c, text.head? = some c ∧ c ≠ '"') ∧ (∀ c ∈ text, c ≠ ' ' ∧ c ≠ '\t') ∧
      (after = [] ∨ after.head? = some ' ' ∨ after.head? = some '\t')

end Piece

theorem Piece.Before.written_ne_nil {piece : Piece} {after : List Char} (h : piece.Before after) :
    piece.written ≠ [] := by
  cases piece with
  | gap c => exact List.cons_ne_nil _ _
  | quoted text => exact List.cons_ne_nil _ _
  | bare text =>
    obtain ⟨⟨c, first, -⟩, -⟩ := h
    rintro rfl
    cases first

/-- The pieces stand at the front of the first text, one behind the other, and the second text is
what comes after them. -/
inductive Reads : List Char → List Piece → List Char → Prop
  | nil (rest : List Char) : Reads rest [] rest
  | cons {piece : Piece} {after rest : List Char} {pieces : List Piece} (first : piece.Before after)
      (later : Reads after pieces rest) : Reads (piece.written ++ after) (piece :: pieces) rest

variable {text after after' rest : List Char} {piece piece' : Piece} {pieces pieces' : List Piece}

theorem Reads.eq_append (h : Reads text pieces rest) :
    text = pieces.flatMap Piece.written ++ rest := by
  induction h with
  | nil => rfl
  | cons _ _ ih => rw [ih, List.flatMap_cons, List.append_assoc]

theorem isGap_iff {c : Char} : isGap c ↔ c = ' ' ∨ c = '\t' := by
  simp [isGap]

theorem isGap_eq_false_iff {c : Char} : isGap c = false ↔ c ≠ ' ' ∧ c ≠ '\t' := by
  simp [isGap]

theorem not_isQuote_iff {c : Char} : (!isQuote c) = true ↔ c ≠ '"' := by
  simp [isQuote]

theorem all_not_isQuote_iff : (∀ c ∈ text, (!isQuote c) = true) ↔ '"' ∉ text := by
  simp only [not_isQuote_iff]
  exact ⟨fun all mem => all _ mem rfl, fun absent c mem same => absent (same ▸ mem)⟩

theorem stops_quote (after : List Char) : Stops (!isQuote ·) ('"' :: after) := by
  rintro c ⟨⟩
  rfl

theorem stops_gap_iff :
    Stops (!isGap ·) after ↔ after = [] ∨ after.head? = some ' ' ∨ after.head? = some '\t' := by
  cases after with
  | nil => simp [Stops]
  | cons c rest => simp [Stops, isGap, Decidable.or_iff_not_imp_left]

def next? : List Char → Option (Piece × List Char)
  | [] => none
  | c :: rest =>
    if isGap c then some (.gap c, rest)
    else if isQuote c then
      if rest.any isQuote then
        some (.quoted (rest.takeWhile (!isQuote ·)), (rest.dropWhile (!isQuote ·)).tail)
      else none
    else some (.bare (c :: rest.takeWhile (!isGap ·)), rest.dropWhile (!isGap ·))

theorem next?_written (h : piece.Before after) :
    next? (piece.written ++ after) = some (piece, after) := by
  cases piece with
  | gap c => exact if_pos (isGap_iff.2 h)
  | quoted text =>
    have all := all_not_isQuote_iff.2 h
    have closed : (text ++ '"' :: after).any isQuote := by simp [isQuote]
    rw [Piece.written, List.append_assoc, List.singleton_append, List.cons_append, next?,
      if_neg (by decide), if_pos (by decide), if_pos closed,
      takeWhile_append_of_stops all (stops_quote after),
      dropWhile_append_of_stops all (stops_quote after), List.tail_cons]
  | bare text =>
    obtain ⟨⟨c, first, visible⟩, all, ends⟩ := h
    obtain ⟨more, rfl⟩ := List.head?_eq_some_iff.1 first
    obtain ⟨here, all⟩ := List.forall_mem_cons.1 all
    have all : ∀ c ∈ more, (!isGap c) = true := fun c mem => by
      rw [isGap_eq_false_iff.2 (all c mem)]
      rfl
    rw [Piece.written, List.cons_append, next?, if_neg (by simp [isGap, here]),
      if_neg (by simp [isQuote, visible]), takeWhile_append_of_stops all (stops_gap_iff.2 ends),
      dropWhile_append_of_stops all (stops_gap_iff.2 ends)]

theorem mem_of_any_isQuote (closed : text.any isQuote) : '"' ∈ text := by
  simpa [isQuote] using closed

theorem before_of_next? (h : next? text = some (piece, after)) :
    text = piece.written ++ after ∧ piece.Before after := by
  cases text with
  | nil => cases h
  | cons c rest =>
    rw [next?] at h
    split_ifs at h with gap quote closed
    · cases h
      exact ⟨rfl, isGap_iff.1 gap⟩
    · obtain ⟨text, after, rfl, within⟩ := List.eq_append_cons_of_mem (mem_of_any_isQuote closed)
      have all := all_not_isQuote_iff.2 within
      rw [takeWhile_append_of_stops all (stops_quote after),
        dropWhile_append_of_stops all (stops_quote after)] at h
      cases h
      refine ⟨?_, within⟩
      rw [isQuote, beq_iff_eq] at quote
      rw [quote, Piece.written, List.append_assoc, List.singleton_append, List.cons_append,
        List.tail_cons]
    · cases h
      refine ⟨?_, ⟨c, rfl, by simpa [isQuote] using quote⟩, ?_,
        stops_gap_iff.1 (stops_dropWhile rest)⟩
      · rw [Piece.written, List.cons_append, List.takeWhile_append_dropWhile]
      · refine List.forall_mem_cons.2 ⟨by simpa [isGap] using gap, fun d mem => ?_⟩
        have inside := List.all_eq_true.1 List.all_takeWhile d mem
        exact isGap_eq_false_iff.1 (by simpa using inside)

theorem eq_of_next?_eq_none (h : next? text = none) :
    text = [] ∨ ∃ rest, text = '"' :: rest ∧ '"' ∉ rest := by
  cases text with
  | nil => exact .inl rfl
  | cons c rest =>
    rw [next?] at h
    split_ifs at h with gap quote closed
    rw [isQuote, beq_iff_eq] at quote
    exact .inr ⟨rest, congrArg (· :: rest) quote, fun mem => closed (by simpa [isQuote] using mem)⟩

theorem split_of_next? (h : next? text = some (piece, after)) :
    split text = (piece.argument?.toList ++ ·) <$> split after := by
  cases text with
  | nil => cases h
  | cons c rest =>
    rw [next?] at h
    rw [split]
    split_ifs at h ⊢ <;> cases h
    · exact Option.map_id'.symm
    · rfl
    · rfl

theorem reads_nil_iff : Reads text [] rest ↔ text = rest := by
  constructor
  · rintro ⟨⟩
    rfl
  · rintro rfl
    exact .nil text

theorem reads_cons_iff :
    Reads text (piece :: pieces) rest ↔
      ∃ after, next? text = some (piece, after) ∧ Reads after pieces rest := by
  constructor
  · rintro (_ | ⟨first, later⟩)
    exact ⟨_, next?_written first, later⟩
  · rintro ⟨after, found, later⟩
    obtain ⟨rfl, first⟩ := before_of_next? found
    exact .cons first later

theorem reads_unique (h : Reads text pieces []) (h' : Reads text pieces' []) :
    pieces = pieces' := by
  induction pieces generalizing text pieces' with
  | nil =>
    obtain rfl := reads_nil_iff.1 h
    cases pieces' with
    | nil => rfl
    | cons piece pieces =>
      obtain ⟨_, found, -⟩ := reads_cons_iff.1 h'
      cases found
  | cons piece pieces ih =>
    obtain ⟨after, found, later⟩ := reads_cons_iff.1 h
    cases pieces' with
    | nil =>
      rw [reads_nil_iff.1 h'] at found
      cases found
    | cons piece' pieces' =>
      obtain ⟨after', found', later'⟩ := reads_cons_iff.1 h'
      rw [found] at found'
      cases found'
      rw [ih later later']

theorem split_of_reads (h : Reads text pieces rest) :
    split text = (pieces.filterMap Piece.argument? ++ ·) <$> split rest := by
  induction pieces generalizing text with
  | nil =>
    rw [reads_nil_iff.1 h]
    exact Option.map_id'.symm
  | cons piece pieces ih =>
    obtain ⟨after, found, later⟩ := reads_cons_iff.1 h
    rw [split_of_next? found, ih later]
    cases split rest with
    | none => rfl
    | some words => cases piece <;> rfl

/-- What follows the pieces that can be read is a quote without another. -/
def Unclosed (text : List Char) : Prop :=
  ∃ pieces rest, Reads text pieces ('"' :: rest) ∧ '"' ∉ rest

theorem split_eq_none_of_unclosed (h : Unclosed text) : split text = none := by
  obtain ⟨pieces, rest, reads, alone⟩ := h
  have never : rest.any isQuote = false := by
    simpa [isQuote] using all_not_isQuote_iff.2 alone
  rw [split_of_reads reads, split, if_neg (by decide), if_pos (by decide), never]
  rfl

theorem reads_or_unclosed (text : List Char) :
    (∃ pieces, Reads text pieces []) ∨ Unclosed text := by
  induction length : text.length using Nat.strongRecOn generalizing text with
  | ind n ih =>
    cases found : next? text with
    | none =>
      rcases eq_of_next?_eq_none found with rfl | ⟨rest, rfl, alone⟩
      · exact .inl ⟨[], .nil []⟩
      · exact .inr ⟨[], rest, .nil _, alone⟩
    | some result =>
      obtain ⟨piece, after⟩ := result
      obtain ⟨rfl, first⟩ := before_of_next? found
      -- no piece is empty, so less is left to read
      have shorter : after.length < n := by
        have visible := List.length_pos_iff.2 first.written_ne_nil
        rw [List.length_append] at length
        omega
      rcases ih _ shorter after rfl with ⟨pieces, later⟩ | ⟨pieces, rest, later, alone⟩
      · exact .inl ⟨piece :: pieces, .cons first later⟩
      · exact .inr ⟨piece :: pieces, rest, .cons first later, alone⟩

theorem split_eq_none_iff : split text = none ↔ Unclosed text := by
  refine ⟨fun failed => (reads_or_unclosed text).resolve_left ?_, split_eq_none_of_unclosed⟩
  rintro ⟨pieces, reads⟩
  rw [split_of_reads reads, split] at failed
  cases failed

theorem split_eq_some_iff {words : List (List Char)} :
    split text = some words ↔
      ∃ pieces, Reads text pieces [] ∧ words = pieces.filterMap Piece.argument? := by
  have whole (pieces) (reads : Reads text pieces []) :
      split text = some (pieces.filterMap Piece.argument?) := by
    rw [split_of_reads reads, split]
    exact congrArg some (List.append_nil _)
  constructor
  · intro found
    rcases reads_or_unclosed text with ⟨pieces, reads⟩ | unclosed
    · rw [whole pieces reads] at found
      exact ⟨pieces, reads, (Option.some.inj found).symm⟩
    · rw [split_eq_none_of_unclosed unclosed] at found
      cases found
  · rintro ⟨pieces, reads, rfl⟩
    exact whole pieces reads

theorem Reads.append {middle : List Char} (h : Reads text pieces middle)
    (h' : Reads middle pieces' rest) : Reads text (pieces ++ pieces') rest := by
  induction h with
  | nil => exact h'
  | cons first _ ih => exact .cons first (ih h')

theorem reads_gaps {gaps : List Char} (blank : ∀ c ∈ gaps, c = ' ' ∨ c = '\t') (rest : List Char) :
    Reads (gaps ++ rest) (gaps.map .gap) rest := by
  induction gaps with
  | nil => exact .nil rest
  | cons c gaps ih =>
    obtain ⟨here, blank⟩ := List.forall_mem_cons.1 blank
    exact @Reads.cons (.gap c) _ _ _ here (ih blank)

theorem filterMap_gaps (gaps : List Char) :
    (gaps.map Piece.gap).filterMap Piece.argument? = [] := by
  rw [List.filterMap_map]
  exact List.filterMap_eq_nil_iff.2 fun c _ => rfl

theorem unended_gaps {gaps : List Char} (blank : ∀ c ∈ gaps, c = ' ' ∨ c = '\t') :
    Unended gaps := by
  refine unended_of_forall fun c mem => ?_
  rcases blank c mem with rfl | rfl <;> decide

def enquote (words : List (String × List Char)) : List Char :=
  words.flatMap fun word => (Piece.quoted word.1.toList).written ++ word.2

section

variable {words : List (String × List Char)}

theorem unended_enquote (blank : ∀ word ∈ words, ∀ c ∈ word.2, c = ' ' ∨ c = '\t') :
    Unended (enquote words) := by
  induction words with
  | nil => exact fun c => nofun
  | cons word words ih =>
    obtain ⟨here, blank⟩ := List.forall_mem_cons.1 blank
    have last : Unended ['"'] := unended_of_forall (List.forall_mem_singleton.2 (by decide))
    have quoted : Unended (Piece.quoted word.1.toList).written := by
      intro c first
      rw [Piece.written, List.getLast?_append] at first
      exact last c first
    exact (quoted.append (unended_gaps here)).append (ih blank)

theorem exists_reads_enquote (plain : ∀ word ∈ words, '"' ∉ word.1.toList)
    (blank : ∀ word ∈ words, ∀ c ∈ word.2, c = ' ' ∨ c = '\t') :
    ∃ pieces, Reads (enquote words) pieces [] ∧
      (pieces.filterMap Piece.argument?).map String.ofList = words.map Prod.fst := by
  induction words with
  | nil => exact ⟨[], .nil [], rfl⟩
  | cons word words ih =>
    obtain ⟨closed, plain⟩ := List.forall_mem_cons.1 plain
    obtain ⟨here, blank⟩ := List.forall_mem_cons.1 blank
    obtain ⟨pieces, later, same⟩ := ih plain blank
    refine ⟨.quoted word.1.toList :: (word.2.map .gap ++ pieces), ?_, ?_⟩
    · rw [enquote, List.flatMap_cons, List.append_assoc]
      exact .cons closed ((reads_gaps here _).append later)
    · have first : (Piece.quoted word.1.toList).argument? = some word.1.toList := rfl
      rw [List.filterMap_cons_some first, List.filterMap_append, filterMap_gaps, List.nil_append,
        List.map_cons, same, List.map_cons, String.ofList_toList]

end

theorem arguments?_eq_some_iff {line : String} (stripped : Stripped line.toList text)
    (args : List String) :
    arguments? line = some args ↔
      ∃ pieces, Reads text pieces [] ∧
        args = (pieces.filterMap Piece.argument?).map String.ofList := by
  rw [arguments?, stripped_iff.1 stripped, Option.map_eq_some_iff]
  simp only [split_eq_some_iff]
  constructor
  · rintro ⟨_, ⟨pieces, reads, rfl⟩, rfl⟩
    exact ⟨pieces, reads, rfl⟩
  · rintro ⟨pieces, reads, rfl⟩
    exact ⟨_, ⟨pieces, reads, rfl⟩, rfl⟩

theorem arguments?_eq_none_iff {line : String} (stripped : Stripped line.toList text) :
    arguments? line = none ↔ Unclosed text := by
  rw [arguments?, stripped_iff.1 stripped, Option.map_eq_none_iff, split_eq_none_iff]

theorem interpret_eq_unclosedQuote_iff {line : String} :
    interpret line = .error .unclosedQuote ↔ arguments? line = none := by
  rw [interpret]
  cases arguments? line with
  | none => simp
  | some args =>
    cases args with
    | nil => simp
    | cons name args => cases named : Verb.ofName? name <;> simp [named]

theorem arguments?_enquote {lead ends : List Char} {words : List (String × List Char)}
    (blankLead : ∀ c ∈ lead, c = ' ' ∨ c = '\t') (plain : ∀ word ∈ words, '"' ∉ word.1.toList)
    (blank : ∀ word ∈ words, ∀ c ∈ word.2, c = ' ' ∨ c = '\t')
    (ended : ∀ c ∈ ends, c = '\n' ∨ c = '\r') :
    arguments? (String.ofList (lead ++ enquote words ++ ends)) = some (words.map Prod.fst) := by
  obtain ⟨pieces, reads, same⟩ := exists_reads_enquote plain blank
  have stripped : Stripped (String.ofList (lead ++ enquote words ++ ends)).toList
      (lead ++ enquote words) := by
    rw [String.toList_ofList]
    exact ⟨ends, rfl, ended, (unended_gaps blankLead).append (unended_enquote blank)⟩
  refine (arguments?_eq_some_iff stripped _).2
    ⟨lead.map .gap ++ pieces, (reads_gaps blankLead _).append reads, ?_⟩
  rw [List.filterMap_append, filterMap_gaps, List.nil_append, same]

/-- A line is read as words exactly where it is made of blanks, words in quotes and words without,
in the one way in which it is; where it is not, it ends inside of quotes. Words in quotes come
back as they were put there. -/
theorem splitting_exact :
    (∀ line, ∃! text, Stripped line text) ∧
    (∀ (line : String) text, Stripped line.toList text →
      (∀ args, arguments? line = some args ↔
        ∃ pieces, Reads text pieces [] ∧
          args = (pieces.filterMap Piece.argument?).map String.ofList) ∧
      (∀ pieces pieces', Reads text pieces [] → Reads text pieces' [] → pieces = pieces') ∧
      (arguments? line = none ↔ Unclosed text) ∧
      (interpret line = .error .unclosedQuote ↔ Unclosed text)) ∧
    (∀ text pieces rest, Reads text pieces rest →
      text = pieces.flatMap Piece.written ++ rest) ∧
    ∀ lead words ends, (∀ c ∈ lead, c = ' ' ∨ c = '\t') →
      (∀ word ∈ words, '"' ∉ word.1.toList) →
      (∀ word ∈ words, ∀ c ∈ word.2, c = ' ' ∨ c = '\t') →
      (∀ c ∈ ends, c = '\n' ∨ c = '\r') →
      arguments? (String.ofList (lead ++ enquote words ++ ends)) = some (words.map Prod.fst) := by
  refine ⟨existsUnique_stripped, fun line text stripped => ?_, fun _ _ _ reads => reads.eq_append,
    fun _ _ _ => arguments?_enquote⟩
  refine ⟨arguments?_eq_some_iff stripped, fun _ _ => reads_unique,
    arguments?_eq_none_iff stripped, ?_⟩
  rw [interpret_eq_unclosedQuote_iff, arguments?_eq_none_iff stripped]

theorem splitting_exact_quotes :
    let words : List (String × List Char) := [("", []), ("a b\t", [' ', '\t']), ("c\n", [])]
    arguments? (String.ofList (['\t'] ++ enquote words ++ ['\r', '\n'])) =
      some ["", "a b\t", "c\n"] ∧
    arguments? "say\"hi\" \"\"\"x\"y\n" = some ["say\"hi\"", "", "x", "y"] ∧
    interpret "dump \"0x10\n" = .error .unclosedQuote := by
  intro words
  have stripped : Stripped "say\"hi\" \"\"\"x\"y\n".toList "say\"hi\" \"\"\"x\"y".toList :=
    stripped_iff.2 rfl
  have reads : Reads "say\"hi\" \"\"\"x\"y".toList
      [.bare "say\"hi\"".toList, .gap ' ', .quoted [], .quoted ['x'], .bare ['y']] [] :=
    reads_cons_iff.2 ⟨_, rfl, reads_cons_iff.2 ⟨_, rfl, reads_cons_iff.2 ⟨_, rfl,
      reads_cons_iff.2 ⟨_, rfl, reads_cons_iff.2 ⟨_, rfl, .nil []⟩⟩⟩⟩⟩
  have stripped' : Stripped "dump \"0x10\n".toList "dump \"0x10".toList := stripped_iff.2 rfl
  have unclosed : Unclosed "dump \"0x10".toList :=
    ⟨[.bare "dump".toList, .gap ' '], "0x10".toList,
      reads_cons_iff.2 ⟨_, rfl, reads_cons_iff.2 ⟨_, rfl, .nil _⟩⟩, by decide⟩
  refine ⟨?_, ?_, ?_⟩
  · exact splitting_exact.2.2.2 ['\t'] words ['\r', '\n'] (by simp) (by decide) (by simp [words])
      (by simp)
  · exact ((splitting_exact.2.1 _ _ stripped).1 _).2 ⟨_, reads, rfl⟩
  · exact (splitting_exact.2.1 _ _ stripped').2.2.2.2 unclosed

end ByteMachine.Debugger
