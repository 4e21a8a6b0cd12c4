import ByteMachine.Program
import ByteMachine.Proofs.Text.LineCut
import ByteMachine.Proofs.Text.Numerals

/-! What the text of a program must be for its bytes to be read off it. -/

namespace ByteMachine.Program

variable {line text comment : List Char} {lines : List (List Char)} {bytes : List UInt8}

/-- What stands on a line before its first comment mark, without the blanks around it. -/
def Content (line text : List Char) : Prop :=
  ∃ front back comment, line = front ++ text ++ back ++ comment ∧
    (∀ c ∈ front, Text.isBlank c) ∧ (∀ c ∈ back, Text.isBlank c) ∧ commentMark ∉ text ∧
    (comment = [] ∨ comment.head? = some commentMark) ∧ (text = [] ∨ Text.Trimmed text)

theorem takeWhile_comment (within : commentMark ∉ text)
    (h : comment = [] ∨ comment.head? = some commentMark) :
    (text ++ comment).takeWhile (· != commentMark) = text := by
  have kept : ∀ c ∈ text, (c != commentMark) = true := by
    intro c mem
    rw [bne_iff_ne]
    rintro rfl
    exact within mem
  refine Text.takeWhile_append_of_stops kept fun c first => ?_
  rcases h with rfl | marked
  · cases first
  · rw [marked] at first
    cases first
    rfl

theorem not_mem_of_blank (blank : ∀ c ∈ text, Text.isBlank c) : commentMark ∉ text :=
  fun mem => absurd (blank commentMark mem) (by decide)

theorem Content.uncomment_eq (h : Content line text) : uncomment line = text := by
  obtain ⟨front, back, comment, rfl, blankFront, blankBack, within, marked, trimmed⟩ := h
  have plain : commentMark ∉ front ++ text ++ back := by
    simp only [List.mem_append, not_or]
    exact ⟨⟨not_mem_of_blank blankFront, within⟩, not_mem_of_blank blankBack⟩
  rw [uncomment, takeWhile_comment plain marked, Text.trim_around blankFront blankBack trimmed]

theorem dropWhile_comment (line : List Char) :
    line.dropWhile (· != commentMark) = [] ∨
      (line.dropWhile (· != commentMark)).head? = some commentMark := by
  have stops := Text.stops_dropWhile (p := (· != commentMark)) line
  cases rest : line.dropWhile (· != commentMark) with
  | nil => exact .inl rfl
  | cons c rest' =>
    have mark : c = commentMark := by simpa [rest] using stops c
    exact .inr (congrArg some mark)

theorem content_uncomment (line : List Char) : Content line (uncomment line) := by
  obtain ⟨front, back, split, blankFront, blankBack⟩ :=
    Text.trim_eq_append (line.takeWhile (· != commentMark))
  refine ⟨front, back, line.dropWhile (· != commentMark), ?_, blankFront, blankBack, ?_,
    dropWhile_comment line, Decidable.or_iff_not_imp_left.2 Text.trimmed_trim⟩
  · rw [uncomment, ← split, List.takeWhile_append_dropWhile]
  · intro mem
    have kept := List.all_eq_true.1 List.all_takeWhile commentMark (Text.mem_of_mem_trim mem)
    exact absurd kept (by decide)

theorem content_iff : Content line text ↔ uncomment line = text :=
  ⟨Content.uncomment_eq, fun h => h ▸ content_uncomment line⟩

theorem forall₂_content_iff {contents : List (List Char)} :
    List.Forall₂ Content lines contents ↔ lines.map uncomment = contents := by
  have same : Content = fun line text => uncomment line = text := by
    funext line text
    exact propext content_iff
  have mapped := @List.forall₂_map_left_iff _ _ _ Eq uncomment lines contents
  rw [same, ← mapped, List.forall₂_eq_eq_eq]

/-- The lines that are not empty hold a binary numeral each, and these are the numerals of the
bytes. -/
def Encodes (source : List Char) (bytes : List UInt8) : Prop :=
  ∃ lines contents, Text.CutInto source lines ∧ List.Forall₂ Content lines contents ∧
    List.Forall₂ (fun text byte => Numeral.Denotes 2 text byte.toNat)
      (contents.filter fun text => !text.isEmpty) bytes

theorem readLines_cons_empty (h : (uncomment line).isEmpty) (number : Nat) :
    readLines number (line :: lines) = readLines (number + 1) lines :=
  if_pos h

theorem readLines_cons (h : (uncomment line).isEmpty = false) (number : Nat) :
    readLines number (line :: lines) =
      match Numeral.readByte 2 (uncomment line) with
      | .error _ => .error (.invalidLine number (String.ofList (uncomment line)))
      | .ok byte => (byte :: ·) <$> readLines (number + 1) lines :=
  if_neg (by simp only [h, Bool.false_eq_true, not_false_eq_true])

theorem readLines_eq_ok_iff (number : Nat) :
    readLines number lines = .ok bytes ↔
      List.Forall₂ (fun text byte => Numeral.Denotes 2 text byte.toNat)
        ((lines.map uncomment).filter fun text => !text.isEmpty) bytes := by
  have numeral (text : List Char) (byte : UInt8) :
      Numeral.readByte 2 text = .ok byte ↔ Numeral.Denotes 2 text byte.toNat :=
    Numeral.readByte_eq_ok_iff (by decide) (by decide)
  induction lines generalizing number bytes with
  | nil => simp [readLines, eq_comm]
  | cons line lines ih =>
    rw [List.map_cons]
    cases empty : (uncomment line).isEmpty with
    | true =>
      rw [readLines_cons_empty empty, List.filter_cons_of_neg (by simp [empty])]
      exact ih _
    | false =>
      rw [readLines_cons empty, List.filter_cons_of_pos (by simp [empty])]
      constructor
      · intro h
        cases read : Numeral.readByte 2 (uncomment line) with
        | error problem =>
          rw [read] at h
          cases h
        | ok byte =>
          cases rest : readLines (number + 1) lines with
          | error fault =>
            rw [read, rest] at h
            cases h
          | ok tail =>
            rw [read, rest] at h
            cases h
            exact .cons ((numeral _ _).1 read) ((ih _).1 rest)
      · rintro (_ | ⟨first, rest⟩)
        rw [(numeral _ _).2 first, (ih _).2 rest]
        rfl

theorem encodes_iff {source : List Char} :
    Encodes source bytes ↔ readLines 1 (Text.lines source) = .ok bytes := by
  rw [readLines_eq_ok_iff]
  constructor
  · rintro ⟨lines, contents, cut, held, numerals⟩
    rwa [Text.cutInto_iff.1 cut, forall₂_content_iff.1 held] at *
  · intro numerals
    exact ⟨_, _, Text.cutInto_lines source, forall₂_content_iff.2 rfl, numerals⟩

theorem parse_eq_ok_iff {source : String} :
    parse source = .ok bytes ↔ bytes.length ≤ capacity ∧ Encodes source.toList bytes := by
  rw [encodes_iff, parse]
  cases read : readLines 1 (Text.lines source.toList) with
  | error fault => simp [bind, Except.bind]
  | ok found =>
    by_cases fits : found.length ≤ capacity
    · simp only [bind, Except.bind, if_pos fits, pure, Except.pure, Except.ok.injEq]
      exact ⟨fun same => ⟨same ▸ fits, same⟩, And.right⟩
    · simp only [bind, Except.bind, if_neg fits, throw, throwThe, MonadExceptOf.throw,
        reduceCtorEq, Except.ok.injEq, false_iff, not_and]
      exact fun small same => fits (same ▸ small)

end ByteMachine.Program
