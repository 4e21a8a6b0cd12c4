import ByteMachine.Proofs.Text.Words
import ByteMachine.Text.Lines

/-! The lines that a text is cut into, each with its ending taken off. -/

namespace ByteMachine.Text

variable {line text : List Char}

/-- A line ends with a line feed, or with a carriage return and a line feed. What is left after
the last ending is a line too, unless it is empty. -/
inductive CutInto : List Char → List (List Char) → Prop
  | empty : CutInto [] []
  | unended {line : List Char} (some : line ≠ []) (within : '\n' ∉ line) : CutInto line [line]
  | lineFeed {line text : List Char} {lines : List (List Char)} (within : '\n' ∉ line)
      (bare : line.getLast? ≠ some '\r') (rest : CutInto text lines) :
      CutInto (line ++ '\n' :: text) (line :: lines)
  | carriageReturn {line text : List Char} {lines : List (List Char)} (within : '\n' ∉ line)
      (rest : CutInto text lines) : CutInto (line ++ '\r' :: '\n' :: text) (line :: lines)

theorem chomp_unended (within : '\n' ∉ line) : chomp line = line := by
  unfold chomp
  split
  · rename_i reversed
    exact absurd (List.mem_reverse.1 (reversed ▸ List.mem_cons_self)) within
  · rename_i reversed
    exact absurd (List.mem_reverse.1 (reversed ▸ List.mem_cons_self)) within
  · rfl

theorem chomp_lineFeed (bare : line.getLast? ≠ some '\r') : chomp (line ++ ['\n']) = line := by
  rw [← List.head?_reverse] at bare
  unfold chomp
  rw [List.reverse_append, List.reverse_singleton, List.singleton_append]
  split
  · rename_i rest reversed
    rw [(List.cons.inj reversed).2] at bare
    exact absurd rfl bare
  · rename_i rest _ reversed
    rw [← (List.cons.inj reversed).2, List.reverse_reverse]
  · rename_i other
    exact absurd rfl (other _)

theorem chomp_carriageReturn (line : List Char) : chomp (line ++ ['\r', '\n']) = line := by
  rw [chomp, List.reverse_append]
  exact List.reverse_reverse line

theorem pieces_unended {α : Type} [BEq α] [LawfulBEq α] {stop : α} {items : List α}
    (some : items ≠ []) (within : stop ∉ items) : pieces stop items = [items] := by
  have whole := pieces_append some (beq_eq_false_of_not_mem within) []
  rw [List.append_nil] at whole
  rw [whole, pieces, List.foldr_nil, joinFirst]

theorem lines_unended (some : line ≠ []) (within : '\n' ∉ line) : lines line = [line] := by
  rw [lines, pieces_unended some within, List.map_singleton, chomp_unended within]

theorem lines_append (within : '\n' ∉ line) (text : List Char) :
    lines (line ++ '\n' :: text) = chomp (line ++ ['\n']) :: lines text := by
  rw [lines, pieces_append_stop within, List.map_cons, lines]

theorem lines_append_lineFeed (within : '\n' ∉ line) (bare : line.getLast? ≠ some '\r')
    (text : List Char) : lines (line ++ '\n' :: text) = line :: lines text := by
  rw [lines_append within, chomp_lineFeed bare]

theorem lines_append_carriageReturn (within : '\n' ∉ line) (text : List Char) :
    lines (line ++ '\r' :: '\n' :: text) = line :: lines text := by
  have within' : '\n' ∉ line ++ ['\r'] := by
    simpa only [List.mem_append, List.mem_singleton, Char.reduceEq, or_false] using within
  have cut := lines_append within' text
  rw [List.append_assoc, List.append_assoc] at cut
  exact cut.trans (congrArg (· :: lines text) (chomp_carriageReturn line))

theorem lines_flatMap {rows : List (List Char)} (within : ∀ row ∈ rows, '\n' ∉ row)
    (bare : ∀ row ∈ rows, row.getLast? ≠ some '\r') :
    lines (rows.flatMap (· ++ ['\n'])) = rows := by
  induction rows with
  | nil => rfl
  | cons row rows ih =>
    rw [List.flatMap_cons, List.append_assoc, List.singleton_append,
      lines_append_lineFeed (within row List.mem_cons_self) (bare row List.mem_cons_self),
      ih (fun other mem => within other (List.mem_cons_of_mem _ mem))
        fun other mem => bare other (List.mem_cons_of_mem _ mem)]

theorem CutInto.eq_lines {cut : List (List Char)} (h : CutInto text cut) : cut = lines text := by
  induction h with
  | empty => rfl
  | unended some within => exact (lines_unended some within).symm
  | lineFeed within bare _ ih => rw [lines_append_lineFeed within bare, ih]
  | carriageReturn within _ ih => rw [lines_append_carriageReturn within, ih]

theorem cutInto_lines (text : List Char) : CutInto text (lines text) := by
  induction length : text.length using Nat.strongRecOn generalizing text with
  | ind n ih =>
    by_cases ended : '\n' ∈ text
    · obtain ⟨line, rest, rfl, within⟩ := List.eq_append_cons_of_mem ended
      have remaining : CutInto rest (lines rest) := by
        refine ih rest.length ?_ rest rfl
        rw [← length, List.length_append, List.length_cons]
        omega
      by_cases bare : line.getLast? = some '\r'
      · obtain ⟨line, rfl⟩ := List.getLast?_eq_some_iff.1 bare
        have within : '\n' ∉ line := fun mem => within (List.mem_append_left _ mem)
        rw [List.append_assoc, List.singleton_append, lines_append_carriageReturn within]
        exact .carriageReturn within remaining
      · rw [lines_append_lineFeed within bare]
        exact .lineFeed within bare remaining
    · by_cases empty : text = []
      · rw [empty]
        exact .empty
      · rw [lines_unended empty ended]
        exact .unended empty ended

theorem cutInto_iff {cut : List (List Char)} : CutInto text cut ↔ cut = lines text :=
  ⟨CutInto.eq_lines, fun h => h ▸ cutInto_lines text⟩

end ByteMachine.Text
