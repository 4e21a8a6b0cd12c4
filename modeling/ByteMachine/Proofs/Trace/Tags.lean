import ByteMachine.Proofs.Trace.Recording

/-! What a text with tags in it reads as. Several tags on end count for one, anything else in front
of the program counter has to be a numeral, and without a bar there are no bytes to read. -/

namespace ByteMachine

namespace Numeral

variable {radix limit value n : Nat} {c : Char} {text : List Char}

theorem isSome_digitValue?_of_readDigits (h : readDigits radix limit value text = .ok n)
    (mem : c ∈ text) : (digitValue? radix c).isSome := by
  induction text generalizing value with
  | nil => cases mem
  | cons d rest ih =>
    rw [readDigits] at h
    split at h
    · cases h
    rename_i digit
    split at h
    · rcases List.mem_cons.1 mem with rfl | mem
      · rw [digit]
        rfl
      · exact ih h mem
    · cases h

theorem isSome_digitValue?_of_read (h : read radix limit text = .ok n) (mem : c ∈ text)
    (other : c ≠ '+') : (digitValue? radix c).isSome := by
  unfold read at h
  split at h
  · cases h
  · cases h
  · exact isSome_digitValue?_of_readDigits h ((List.mem_cons.1 mem).resolve_left other)
  · exact isSome_digitValue?_of_readDigits h mem

theorem isSome_digitValue?_of_readByte {byte : UInt8} (h : readByte radix text = .ok byte)
    (mem : c ∈ text) (other : c ≠ '+') : (digitValue? radix c).isSome := by
  unfold readByte at h
  cases read : Numeral.read radix 0xFF text with
  | error error =>
    rw [read] at h
    cases h
  | ok n => exact isSome_digitValue?_of_read read mem other

end Numeral

namespace Trace

variable {text front : List Char}

def tags (count : Nat) : List Char :=
  (List.replicate count tag).flatten

theorem tags_succ_append (count : Nat) (text : List Char) :
    tags (count + 1) ++ text = tag ++ (tags count ++ text) := by
  rw [tags, List.replicate_succ, List.flatten_cons, List.append_assoc, tags]

theorem not_mem_tags {c : Char} (h : c ∉ tag) (count : Nat) : c ∉ tags count := by
  intro mem
  obtain ⟨_, among, inside⟩ := List.mem_flatten.1 mem
  exact h (List.eq_of_mem_replicate among ▸ inside)

theorem tagged_tags_append (tagged : tag <+: text) (count : Nat) : tag <+: tags count ++ text := by
  cases count with
  | zero => exact tagged
  | succ count =>
    rw [tags_succ_append]
    exact List.prefix_append _ _

theorem trimmed_tags_append (trimmed : Text.Trimmed text) (count : Nat) :
    Text.Trimmed (tags count ++ text) := by
  induction count with
  | zero => exact trimmed
  | succ count ih =>
    rw [tags_succ_append]
    simpa only [List.append_nil] using isWord_tag.trimmed.append [] ih

theorem IsEntry.tags_append (h : IsEntry text) (count : Nat) : IsEntry (tags count ++ text) where
  whole := by
    rw [List.mem_append, not_or]
    exact ⟨not_mem_tags (by decide) count, h.whole⟩
  tagged := tagged_tags_append h.tagged count
  trimmed := trimmed_tags_append h.trimmed count

theorem dropTags_tags_append (count : Nat) (text : List Char) :
    dropTags (tags count ++ text) = dropTags text := by
  induction count with
  | zero => rfl
  | succ count ih =>
    rw [tags_succ_append]
    exact ih

theorem readFrame_tags_append (trimmed : Text.Trimmed text) (count : Nat) :
    readFrame (tags count ++ text) = readFrame text := by
  rw [readFrame, readFrame, (trimmed_tags_append trimmed count).trim_eq, trimmed.trim_eq,
    dropTags_tags_append]

theorem dropTags_of_untagged (untagged : ¬ tag <+: text) : dropTags text = text := by
  unfold dropTags
  split
  · exact absurd (List.prefix_append tag _) untagged
  · rfl

theorem exists_tags (text : List Char) :
    ∃ count behind, text = tags count ++ behind ∧ ¬ tag <+: behind := by
  induction size : text.length using Nat.strongRecOn generalizing text with
  | ind size' ih =>
    by_cases tagged : tag <+: text
    · obtain ⟨rest, rfl⟩ := tagged
      have shorter : rest.length < size' := by
        rw [← size, List.length_append]
        exact Nat.lt_add_of_pos_left (by decide)
      obtain ⟨count, behind, rfl, untagged⟩ := ih _ shorter rest rfl
      exact ⟨count + 1, behind, (tags_succ_append count behind).symm, untagged⟩
    · exact ⟨0, text, rfl, tagged⟩

theorem mem_of_mem_dropTags {c : Char} (mem : c ∈ dropTags text) : c ∈ text := by
  obtain ⟨count, behind, rfl, untagged⟩ := exists_tags text
  rw [dropTags_tags_append, dropTags_of_untagged untagged] at mem
  exact List.mem_append_right _ mem

theorem exists_first_tag (inside : tag <:+: text) :
    ∃ front rest, text = front ++ (tag ++ rest) ∧ ¬ tag <:+: front := by
  induction text with
  | nil => exact absurd inside.length_le (by decide)
  | cons c text ih =>
    by_cases tagged : tag <+: c :: text
    · obtain ⟨rest, cut⟩ := tagged
      exact ⟨[], rest, cut.symm, by decide⟩
    · obtain ⟨front, rest, rfl, clear⟩ := ih ((List.infix_cons_iff.1 inside).resolve_left tagged)
      refine ⟨c :: front, rest, rfl, ?_⟩
      rw [List.infix_cons_iff, not_or]
      exact ⟨fun early => tagged (early.trans (List.prefix_append _ _)), clear⟩

theorem exists_getD_splitOn {c : Char} (h : c ∉ front) (rest : List Char) :
    ∃ after, ((front ++ rest).splitOn c).getD 0 [] = front ++ after := by
  by_cases found : c ∈ rest
  · obtain ⟨first, last, rfl, before⟩ := List.eq_append_cons_of_mem found
    have absent : c ∉ front ++ first := by
      rw [List.mem_append, not_or]
      exact ⟨h, before⟩
    refine ⟨first, ?_⟩
    rw [← List.append_assoc, List.splitOn_append_cons_self_of_not_mem absent, List.getD_cons_zero]
  · have absent : c ∉ front ++ rest := by
      rw [List.mem_append, not_or]
      exact ⟨h, found⟩
    refine ⟨rest, ?_⟩
    rw [List.splitOn_eq_singleton absent, List.getD_cons_zero]

theorem reads_of_readFrame {frame : Frame} (h : readFrame text = .ok frame) :
    let sections := (dropTags (Text.trim text)).splitOn '|'
    (∃ pc, Numeral.readByte 16 (Text.trim (sections.getD 0 [])) = .ok pc) ∧
      ∃ bytes, readBytes 3 (sections.getD 1 []) = .ok bytes := by
  intro sections
  change (Numeral.readByte 16 _ >>= _) = _ at h
  cases first : Numeral.readByte 16 (Text.trim (sections.getD 0 [])) with
  | error error =>
    rw [first] at h
    cases h
  | ok pc =>
    rw [first] at h
    change (readBytes 3 _ >>= _) = _ at h
    cases second : readBytes 3 (sections.getD 1 []) with
    | error error =>
      rw [second] at h
      cases h
    | ok bytes => exact ⟨⟨pc, rfl⟩, bytes, rfl⟩

theorem readFrame_unbarred (unbarred : '|' ∉ text) (frame : Frame) :
    readFrame text ≠ .ok frame := by
  have alone : '|' ∉ dropTags (Text.trim text) := fun mem =>
    unbarred (Text.mem_of_mem_trim (mem_of_mem_dropTags mem))
  have missing : readBytes 3 [] = .error .empty := by decide +kernel
  intro read
  obtain ⟨_, _, bytes⟩ := reads_of_readFrame read
  rw [List.splitOn_eq_singleton alone, List.getD_cons_succ, List.getD_nil, missing] at bytes
  cases bytes

end Trace
end ByteMachine
