import ByteMachine.Proofs.Trace.Tags

/-! Trace lines captured together with output that comes in chunks of any size, and so may spell a
tag. That does no harm right before the next line, whose own tag is then the last of several.
Anywhere else it begins an entry that is none of the lines, and without a bar in it one that cannot
be read. -/

namespace ByteMachine.Trace

open Text (pieces)

variable {text chunk rest : List Char} {lines chunks : List (List Char)}

/-- Spells no tag but at the very end. -/
def Harmless (chunk : List Char) : Prop :=
  ∃ front count, chunk = front ++ tags count ∧ ¬ tag <:+: front

theorem harmless_of_clear (clear : ¬ tag <:+: chunk) : Harmless chunk :=
  ⟨chunk, 0, (List.append_nil chunk).symm, clear⟩

theorem Harmless.map_readFrame_entries (h : Harmless chunk) (entry : IsEntry text) :
    (entries (pieces '\n' (chunk ++ (text ++ '\n' :: rest)))).map readFrame =
      (entries (pieces '\n' (text ++ '\n' :: rest))).map readFrame := by
  obtain ⟨front, count, rfl, clear⟩ := h
  have tagged : tag <+: tags count ++ text ++ '\n' :: rest :=
    (entry.tags_append count).tagged.trans (List.prefix_append _ _)
  rw [List.append_assoc, ← List.append_assoc (tags count),
    entries_append_of_clear clear (.inr tagged), (entry.tags_append count).entries_append,
    entry.entries_append, List.map_cons, List.map_cons, readFrame_tags_append entry.trimmed]

theorem harmless_or_spells (chunk : List Char) :
    Harmless chunk ∨ ∃ front count behind, chunk = front ++ (tags (count + 1) ++ behind) ∧
      ¬ tag <:+: front ∧ behind ≠ [] ∧ ¬ tag <+: behind := by
  by_cases inside : tag <:+: chunk
  · obtain ⟨front, rest, rfl, clear⟩ := exists_first_tag inside
    obtain ⟨count, behind, rfl, untagged⟩ := exists_tags rest
    rw [← tags_succ_append]
    by_cases nothing : behind = []
    · exact .inl ⟨front, count + 1, by rw [nothing, List.append_nil], clear⟩
    · exact .inr ⟨front, count, behind, rfl, clear, nothing, untagged⟩
  · exact .inl (harmless_of_clear inside)

section Spelled

/-! A tag, more behind it that does not go on with another one, and then the line that comes
next. -/

variable {behind : List Char}

theorem tagged_spelled (count : Nat) (rest : List Char) :
    tag <+: tags (count + 1) ++ behind ++ rest := by
  rw [tags_succ_append, List.append_assoc]
  exact List.prefix_append _ _

theorem IsEntry.trimmed_spelled (h : IsEntry text) (count : Nat) :
    Text.Trimmed (tags (count + 1) ++ behind ++ text) := by
  rw [tags_succ_append]
  exact isWord_tag.trimmed.append _ h.trimmed

theorem IsEntry.readFrame_spelled (h : IsEntry text) (ne_nil : behind ≠ [])
    (untagged : ¬ tag <+: behind) (unbarred : '|' ∉ behind) (count : Nat) (frame : Frame) :
    readFrame (tags (count + 1) ++ behind ++ text) ≠ .ok frame := by
  intro read
  obtain ⟨⟨pc, first⟩, _⟩ := reads_of_readFrame read
  rw [(h.trimmed_spelled count).trim_eq, List.append_assoc, dropTags_tags_append,
    dropTags_of_untagged (not_tagged_append ne_nil untagged h.tagged)] at first
  obtain ⟨body, rfl⟩ := h.tagged
  have bar : '|' ∉ behind ++ tag := by
    rw [List.mem_append, not_or]
    exact ⟨unbarred, by decide⟩
  obtain ⟨after, spelled⟩ := exists_getD_splitOn bar body
  rw [← List.append_assoc, spelled] at first
  have letter : 'T' ∈ Text.trim (behind ++ tag ++ after) := by
    refine Text.mem_trim (by decide) (List.mem_append_left _ (List.mem_append_right _ ?_))
    exact List.mem_cons_self
  exact absurd (Numeral.isSome_digitValue?_of_readByte first letter (by decide)) (by decide)

theorem IsEntry.exists_unreadable (h : IsEntry text) (ne_nil : behind ≠ [])
    (untagged : ¬ tag <+: behind) (unbarred : '|' ∉ behind) (count : Nat) (rest : List Char) :
    ∃ entry others, entries (pieces '\n' (tags (count + 1) ++ behind ++ (text ++ '\n' :: rest))) =
      entry :: others ∧ ∀ frame, readFrame entry ≠ .ok frame := by
  have lineFeed : '\n' ∉ tags (count + 1) := not_mem_tags (by decide) _
  by_cases stop : '\n' ∈ behind
  -- either a line of its own, without a bar
  · obtain ⟨first, last, rfl, whole⟩ := List.eq_append_cons_of_mem stop
    have whole : '\n' ∉ tags (count + 1) ++ first := by
      rw [List.mem_append, not_or]
      exact ⟨lineFeed, whole⟩
    have bar : '|' ∉ tags (count + 1) ++ first ++ ['\n'] := by
      simp only [List.mem_append, List.mem_cons, not_or] at unbarred ⊢
      exact ⟨⟨not_mem_tags (by decide) _, unbarred.1⟩, by decide, List.not_mem_nil⟩
    rw [← List.append_assoc (tags _), List.append_assoc, List.cons_append,
      Text.pieces_append_stop whole,
      entries_cons_some (fromTag?_of_tagged (tagged_spelled count ['\n']))]
    exact ⟨_, _, rfl, readFrame_unbarred fun mem => bar (Text.mem_of_mem_trimEnd mem)⟩
  -- or the beginning of the next one
  · have entry : IsEntry (tags (count + 1) ++ behind ++ text) := by
      refine ⟨?_, tagged_spelled count _, h.trimmed_spelled count⟩
      simp only [List.mem_append, not_or]
      exact ⟨⟨lineFeed, stop⟩, h.whole⟩
    rw [← List.append_assoc (tags _ ++ _), entry.entries_append]
    exact ⟨_, _, rfl, h.readFrame_spelled ne_nil untagged unbarred count⟩

end Spelled

theorem IsEntry.harmless_of_readable (h : IsEntry text) (unbarred : '|' ∉ chunk) {frame : Frame}
    (read : ((entries (pieces '\n' (chunk ++ (text ++ '\n' :: rest)))).map readFrame).head? =
      some (.ok frame)) : Harmless chunk := by
  refine (harmless_or_spells chunk).resolve_right ?_
  rintro ⟨front, count, behind, rfl, clear, ne_nil, untagged⟩
  have unbarred : '|' ∉ behind := fun mem =>
    unbarred (List.mem_append_right _ (List.mem_append_right _ mem))
  obtain ⟨entry, others, first, unread⟩ := h.exists_unreadable ne_nil untagged unbarred count rest
  rw [List.append_assoc, entries_append_of_clear clear (.inr (tagged_spelled count _)), first,
    List.map_cons, List.head?_cons, Option.some_inj] at read
  exact unread frame read

def interleave : List (List Char) → List (List Char) → List Char
  | line :: lines, chunk :: chunks => line ++ '\n' :: (chunk ++ interleave lines chunks)
  | _, _ => []

theorem entries_interleave_late (whole : ∀ text ∈ lines, IsEntry text) (ne_nil : lines ≠ [])
    (more : List (List Char)) (chunk : List Char) (chunks : List (List Char)) :
    entries (pieces '\n' (interleave (lines ++ more)
      (List.replicate (lines.length - 1) [] ++ chunk :: chunks))) =
      lines ++ entries (pieces '\n' (chunk ++ interleave more chunks)) := by
  induction lines with
  | nil => exact absurd rfl ne_nil
  | cons text lines ih =>
    rw [List.forall_mem_cons] at whole
    cases lines with
    | nil => exact whole.1.entries_append _
    | cons next lines =>
      have rest := ih whole.2 (List.cons_ne_nil next lines)
      rw [List.length_cons, Nat.add_sub_cancel] at rest
      change entries (pieces '\n' (text ++ '\n' :: ([] ++ interleave (next :: lines ++ more)
        (List.replicate lines.length [] ++ chunk :: chunks)))) = _
      rw [List.nil_append, whole.1.entries_append, rest, ← List.cons_append]

/-- The lines can be read there, in their order. More may follow. -/
def Recorded (lines : List (List Char)) (log : List Char) : Prop :=
  lines.map readFrame <+: (entries (pieces '\n' log)).map readFrame

theorem IsEntry.recorded_cons (h : IsEntry text) (rest : List Char) :
    Recorded (text :: lines) (text ++ '\n' :: rest) ↔ Recorded lines rest := by
  rw [Recorded, h.entries_append, List.map_cons, List.map_cons, List.cons_prefix_cons]
  exact and_iff_right rfl

theorem Harmless.recorded_append (harmless : Harmless chunk) (entry : IsEntry text) :
    Recorded lines (chunk ++ (text ++ '\n' :: rest)) ↔ Recorded lines (text ++ '\n' :: rest) := by
  rw [Recorded, harmless.map_readFrame_entries entry, Recorded]

theorem recorded_of_harmless (whole : ∀ text ∈ lines, IsEntry text)
    (length : chunks.length = lines.length) (harmless : ∀ chunk ∈ chunks.dropLast, Harmless chunk) :
    Recorded lines (interleave lines chunks) := by
  induction lines generalizing chunks with
  | nil => exact List.nil_prefix
  | cons text lines ih =>
    obtain _ | ⟨chunk, chunks⟩ := chunks
    · cases length
    rw [List.length_cons, List.length_cons, Nat.add_right_cancel_iff] at length
    rw [List.forall_mem_cons] at whole
    rw [interleave, whole.1.recorded_cons]
    -- the last chunk stands behind all the lines
    obtain _ | ⟨next, lines⟩ := lines
    · exact List.nil_prefix
    obtain _ | ⟨other, chunks⟩ := chunks
    · cases length
    rw [List.dropLast_cons_cons, List.forall_mem_cons] at harmless
    have rest := ih whole.2 length harmless.2
    rw [interleave] at rest ⊢
    exact (harmless.1.recorded_append (whole.2 next List.mem_cons_self)).2 rest

theorem harmless_of_recorded (whole : ∀ text ∈ lines, IsEntry text)
    (readable : ∀ text ∈ lines, ∃ frame, readFrame text = .ok frame)
    (length : chunks.length = lines.length) (unbarred : ∀ chunk ∈ chunks.dropLast, '|' ∉ chunk)
    (recorded : Recorded lines (interleave lines chunks)) :
    ∀ chunk ∈ chunks.dropLast, Harmless chunk := by
  induction lines generalizing chunks with
  | nil =>
    rw [List.length_eq_zero_iff.1 length]
    exact nofun
  | cons text lines ih =>
    obtain _ | ⟨chunk, chunks⟩ := chunks
    · cases length
    rw [List.length_cons, List.length_cons, Nat.add_right_cancel_iff] at length
    rw [List.forall_mem_cons] at whole readable
    rw [interleave, whole.1.recorded_cons] at recorded
    obtain _ | ⟨next, lines⟩ := lines
    · rw [List.length_eq_zero_iff.1 length]
      exact nofun
    obtain _ | ⟨other, chunks⟩ := chunks
    · cases length
    rw [List.dropLast_cons_cons, List.forall_mem_cons] at unbarred ⊢
    rw [interleave] at recorded
    have entry := whole.2 next List.mem_cons_self
    have harmless : Harmless chunk := by
      obtain ⟨frame, read⟩ := readable.2 next List.mem_cons_self
      obtain ⟨others, found⟩ := recorded
      rw [List.map_cons, read, List.cons_append] at found
      exact entry.harmless_of_readable unbarred.1 (by rw [← found]; exact List.head?_cons)
    have rest := (harmless.recorded_append entry).1 recorded
    rw [← interleave] at rest
    exact ⟨harmless, ih whole.2 readable.2 length unbarred.2 rest⟩

end ByteMachine.Trace
