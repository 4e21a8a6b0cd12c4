import ByteMachine.Proofs.Trace.Entries

/-! Trace lines recorded between all that a program prints. What is printed may run into the line
that comes next, and as long as it spells no tag itself, it cannot hide the tag of that line or
pass for one. What a single instruction prints is too short for a tag or has none of its letters. -/

namespace ByteMachine.Trace

open Text (pieces)

variable {front rest text : List Char}

/-- The first letter of a tag comes only once in it, so that none begins in front of another one and
ends within it. -/
theorem not_tagged_append (ne_nil : front ≠ []) (untagged : ¬ tag <+: front) (h : tag <+: rest) :
    ¬ tag <+: front ++ rest := by
  intro tagged
  rcases Nat.lt_or_ge front.length tag.length with short | long
  · have once : ∀ k, (small : k < tag.length) → tag[k] = 'T' → k = 0 := by decide
    have there := List.prefix_iff_getElem?.1 tagged front.length short
    rw [List.getElem?_append_right (Nat.le_refl _), Nat.sub_self,
      List.prefix_iff_getElem?.1 h 0 (by decide)] at there
    have none := once front.length short (Option.some.inj there).symm
    exact ne_nil (List.length_eq_zero_iff.1 none)
  · exact untagged (List.prefix_of_prefix_length_le tagged (List.prefix_append _ _) long)

theorem fromTag?_append (clear : ¬ tag <:+: front) (h : tag <+: rest) :
    fromTag? (front ++ rest) = some rest := by
  induction front with
  | nil => exact fromTag?_of_tagged h
  | cons c front ih =>
    rw [List.infix_cons_iff, not_or] at clear
    have untagged := not_tagged_append (List.cons_ne_nil c front) clear.1 h
    rw [List.cons_append] at untagged ⊢
    rw [fromTag?_cons untagged, ih clear.2]

theorem entries_append_of_whole (whole : '\n' ∉ front) (clear : ¬ tag <:+: front)
    (h : rest = [] ∨ tag <+: rest) :
    entries (pieces '\n' (front ++ rest)) = entries (pieces '\n' rest) := by
  by_cases none : front = []
  · rw [none, List.nil_append]
  rw [Text.pieces_append none (Text.beq_eq_false_of_not_mem whole)]
  rcases h with rfl | ⟨rest, rfl⟩
  · exact entries_cons_none (fromTag?_eq_none.2 clear)
  -- the first piece of the rest begins with its tag
  have glued (piece : List Char) : entryOf (front ++ (tag ++ piece)) = entryOf (tag ++ piece) := by
    have tagged := List.prefix_append tag piece
    rw [entryOf, entryOf, fromTag?_append clear tagged, fromTag?_of_tagged tagged]
  have word : '\n' ∉ tag := isWord_tag.not_mem (by decide)
  rw [Text.pieces_append isWord_tag.ne_nil (Text.beq_eq_false_of_not_mem word)]
  cases pieces '\n' rest with
  | nil =>
    have alone := glued []
    rw [List.append_nil] at alone
    simp only [Text.joinFirst, entries, List.filterMap_cons, alone]
  | cons piece others =>
    simp only [Text.joinFirst, entries, List.filterMap_cons, glued piece]

theorem entries_append_of_clear (clear : ¬ tag <:+: front) (h : rest = [] ∨ tag <+: rest) :
    entries (pieces '\n' (front ++ rest)) = entries (pieces '\n' rest) := by
  -- line by line
  induction size : front.length using Nat.strongRecOn generalizing front with
  | ind size' ih =>
    by_cases stop : '\n' ∈ front
    · obtain ⟨first, back, rfl, whole⟩ := List.eq_append_cons_of_mem stop
      have clearFirst : ¬ tag <:+: first ++ ['\n'] := by
        refine fun inside => clear (inside.trans ?_)
        exact ⟨[], back, by rw [List.nil_append, List.append_assoc, List.singleton_append]⟩
      have clearBack : ¬ tag <:+: back := by
        refine fun inside => clear (inside.trans ?_)
        exact ⟨first ++ ['\n'], [], by rw [List.append_nil, List.append_assoc,
          List.singleton_append]⟩
      have shorter : back.length < size' := by
        rw [← size, List.length_append, List.length_cons]
        omega
      rw [List.append_assoc, List.cons_append, Text.pieces_append_stop whole,
        entries_cons_none (fromTag?_eq_none.2 clearFirst), ih _ shorter clearBack rfl]
    · exact entries_append_of_whole stop clear h

structure IsEntry (text : List Char) : Prop where
  whole : '\n' ∉ text
  tagged : tag <+: text
  trimmed : Text.Trimmed text

theorem isEntry_line (processor : Processor) (instruction : Instruction) :
    IsEntry (line processor instruction).toList where
  whole := lineFeed_not_mem_line processor instruction
  tagged := by
    rw [toList_line]
    exact List.prefix_append _ _
  trimmed := trimmed_line processor instruction

theorem IsEntry.entries_append (h : IsEntry text) (rest : List Char) :
    entries (pieces '\n' (text ++ '\n' :: rest)) = text :: entries (pieces '\n' rest) := by
  rw [Text.pieces_append_stop h.whole,
    entries_cons_some (fromTag?_of_tagged (h.tagged.trans (List.prefix_append _ _))),
    Text.trimEnd_append_blank (by decide), h.trimmed.trimEnd_eq]

inductive Output : List Char → Prop where
  | nothing : Output []
  | number (n : Nat) : Output ((Text.decimal n).toList ++ ['\n'])
  | character (c : Char) : Output [c]

theorem Output.clear {out : List Char} (output : Output out) : ¬ tag <:+: out := by
  intro inside
  cases output with
  | nothing => exact absurd inside.length_le (by decide : ¬ 6 ≤ 0)
  | number n =>
    rcases List.mem_append.1 (inside.subset (List.mem_cons_self : 'T' ∈ tag)) with digit | last
    · exact absurd (Text.isDigit_of_mem_decimal digit) (by decide)
    · exact absurd (List.mem_singleton.1 last) (by decide)
  | character c => exact absurd inside.length_le (by decide : ¬ 6 ≤ 1)

end ByteMachine.Trace
