import ByteMachine.FileAccess
import ByteMachine.Proofs.Text.LineCut

/-! What a file gives when it is read line by line. Bytes behind the last line feed are a line as
well, but not where reading fails behind them. -/

namespace ByteMachine

namespace Text

variable {α : Type} {stop : α} {items rest : List α} {ended : List (List α)}

/-- So many lines, each with its stop behind it, and then a rest without one. -/
structure EndedBy (stop : α) (items : List α) (ended : List (List α)) (rest : List α) : Prop where
  cut : items = ended.flatMap (· ++ [stop]) ++ rest
  within : ∀ line ∈ ended, stop ∉ line
  unended : stop ∉ rest

theorem EndedBy.empty (stop : α) : EndedBy stop [] [] [] :=
  ⟨rfl, nofun, List.not_mem_nil⟩

theorem EndedBy.cons_stop (h : EndedBy stop items ended rest) :
    EndedBy stop (stop :: items) ([] :: ended) rest := by
  obtain ⟨rfl, within, unended⟩ := h
  exact ⟨rfl, List.forall_mem_cons.2 ⟨List.not_mem_nil, within⟩, unended⟩

theorem EndedBy.exists_cons {a : α} (other : stop ≠ a) (h : EndedBy stop items ended rest) :
    ∃ ended rest, EndedBy stop (a :: items) ended rest := by
  obtain ⟨rfl, within, unended⟩ := h
  cases ended with
  | nil => exact ⟨[], a :: rest, rfl, nofun, List.not_mem_cons_of_ne_of_not_mem other unended⟩
  | cons line ended =>
    obtain ⟨first, within⟩ := List.forall_mem_cons.1 within
    refine ⟨(a :: line) :: ended, rest, rfl, ?_, unended⟩
    exact List.forall_mem_cons.2 ⟨List.not_mem_cons_of_ne_of_not_mem other first, within⟩

theorem exists_endedBy [DecidableEq α] (stop : α) (items : List α) :
    ∃ ended rest, EndedBy stop items ended rest := by
  induction items with
  | nil => exact ⟨[], [], .empty stop⟩
  | cons a items ih =>
    obtain ⟨ended, rest, h⟩ := ih
    by_cases same : stop = a
    · subst same
      exact ⟨_, _, h.cons_stop⟩
    · exact h.exists_cons same

variable [BEq α] [LawfulBEq α]

theorem pieces_of_endedBy (h : EndedBy stop items ended rest) :
    pieces stop items =
      ended.map (· ++ [stop]) ++ if rest.isEmpty then [] else [rest] := by
  obtain ⟨rfl, within, unended⟩ := h
  induction ended with
  | nil =>
    cases rest with
    | nil => rfl
    | cons a rest =>
      exact pieces_unended (List.cons_ne_nil a rest) unended
  | cons line ended ih =>
    obtain ⟨first, within⟩ := List.forall_mem_cons.1 within
    rw [List.flatMap_cons, List.append_assoc, List.append_assoc, List.singleton_append,
      pieces_append_stop first, ih within]
    rfl

theorem filter_pieces_of_endedBy (h : EndedBy stop items ended rest) :
    (pieces stop items).filter (·.getLast? == some stop) = ended.map (· ++ [stop]) := by
  have lines : (ended.map (· ++ [stop])).filter (·.getLast? == some stop) =
      ended.map (· ++ [stop]) := by
    refine List.filter_eq_self.2 fun line mem => ?_
    obtain ⟨line, -, rfl⟩ := List.mem_map.1 mem
    rw [List.getLast?_concat, beq_iff_eq]
  have tail : (if rest.isEmpty then [] else [rest]).filter (·.getLast? == some stop) = [] := by
    split
    · rfl
    · refine List.filter_eq_nil_iff.2 fun line mem => ?_
      rw [List.mem_singleton.1 mem, beq_iff_eq]
      exact fun last => h.unended (List.mem_of_getLast? last)
  rw [pieces_of_endedBy h, List.filter_append, lines, tail, List.append_nil]

end Text

namespace FileAccess

open Text (EndedBy LineSource)

variable {bytes : ByteArray} {ended : List (List UInt8)} {rest : List UInt8}
  {recording : LineSource} {reason : String}

def decoded (lines : List (List UInt8)) : List (Option String) :=
  lines.map fun line => String.fromUTF8? line.toByteArray

inductive Opens : FileAccess → LineSource → Prop
  | whole {bytes : ByteArray} {ended : List (List UInt8)} {rest : List UInt8}
      (cut : EndedBy 0x0A bytes.data.toList ended rest) :
      Opens (.contents bytes)
        { lines := decoded (ended.map (· ++ [0x0A]) ++ if rest.isEmpty then [] else [rest]) }
  | part {bytes : ByteArray} {ended : List (List UInt8)} {rest : List UInt8} {reason : String}
      (cut : EndedBy 0x0A bytes.data.toList ended rest) :
      Opens (.broken bytes reason)
        { lines := decoded (ended.map (· ++ [0x0A])), failure := some reason }

theorem ofBytes_eq (cut : EndedBy 0x0A bytes.data.toList ended rest) :
    LineSource.ofBytes bytes =
      { lines := decoded (ended.map (· ++ [0x0A]) ++ if rest.isEmpty then [] else [rest]) } := by
  rw [LineSource.ofBytes, LineSource.lineFeed, Text.pieces_of_endedBy cut, decoded]

theorem interrupted_eq (cut : EndedBy 0x0A bytes.data.toList ended rest) (reason : String) :
    LineSource.interrupted bytes reason =
      { lines := decoded (ended.map (· ++ [0x0A])), failure := some reason } := by
  rw [LineSource.interrupted, LineSource.lineFeed, Text.filter_pieces_of_endedBy cut, decoded]

theorem opens_contents_iff : (contents bytes).Opens recording ↔ recording = .ofBytes bytes := by
  constructor
  · intro opens
    cases opens with
    | whole cut => exact (ofBytes_eq cut).symm
  · rintro rfl
    obtain ⟨ended, rest, cut⟩ := Text.exists_endedBy 0x0A bytes.data.toList
    rw [ofBytes_eq cut]
    exact .whole cut

theorem opens_broken_iff :
    (broken bytes reason).Opens recording ↔ recording = .interrupted bytes reason := by
  constructor
  · intro opens
    cases opens with
    | part cut => exact (interrupted_eq cut reason).symm
  · rintro rfl
    obtain ⟨ended, rest, cut⟩ := Text.exists_endedBy 0x0A bytes.data.toList
    rw [interrupted_eq cut]
    exact .part cut

end FileAccess
end ByteMachine
