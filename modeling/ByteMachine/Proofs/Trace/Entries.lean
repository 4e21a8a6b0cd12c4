import ByteMachine.Proofs.Trace.LineRoundTrip
import ByteMachine.Trace.Log

/-! The entries of a recording. A comparison uses up one of them, whatever stands between them and
however it turns out. -/

namespace ByteMachine.Trace

open Text (LineSource)

variable {line text : List Char}

theorem fromTag?_of_tagged (h : tag <+: line) : fromTag? line = some line := by
  cases line with
  | nil => exact absurd (List.prefix_nil.1 h) (by decide)
  | cons c rest => rw [fromTag?, if_pos (List.isPrefixOf_iff_prefix.2 h)]

theorem fromTag?_cons {c : Char} (h : ¬ tag <+: c :: line) :
    fromTag? (c :: line) = fromTag? line := by
  rw [fromTag?, if_neg (fun tagged => h (List.isPrefixOf_iff_prefix.1 tagged))]

theorem fromTag?_eq_none : fromTag? line = none ↔ ¬ tag <:+: line := by
  induction line with
  | nil => decide
  | cons c rest ih =>
    rw [List.infix_cons_iff, not_or]
    by_cases found : tag <+: c :: rest
    · simp only [fromTag?_of_tagged found, found, reduceCtorEq, not_true_eq_false, false_and]
    · rw [fromTag?_cons found, ih]
      exact ⟨fun h => ⟨found, h⟩, fun h => h.2⟩

def FirstTag (line text : List Char) : Prop :=
  tag <+: text ∧ ∃ before, line = before ++ text ∧
    ∀ start rest, line = start ++ rest → tag <+: rest → before.length ≤ start.length

theorem firstTag_of_tagged (h : tag <+: line) : FirstTag line text ↔ line = text := by
  constructor
  · rintro ⟨_, before, cut, first⟩
    have none := first [] line rfl h
    rw [List.length_eq_zero_iff.1 (Nat.le_zero.1 none)] at cut
    exact cut
  · rintro rfl
    exact ⟨h, [], rfl, fun _ _ _ _ => Nat.zero_le _⟩

theorem firstTag_cons {c : Char} (h : ¬ tag <+: c :: line) :
    FirstTag (c :: line) text ↔ FirstTag line text := by
  constructor
  · rintro ⟨tagged, before, cut, first⟩
    cases before with
    | nil => exact absurd (cut ▸ tagged) h
    | cons d before =>
      obtain ⟨rfl, rfl⟩ := List.cons.inj cut
      refine ⟨tagged, before, rfl, fun start rest cut' tagged' => ?_⟩
      have later := first (c :: start) rest (by rw [cut', List.cons_append]) tagged'
      exact Nat.le_of_succ_le_succ later
  · rintro ⟨tagged, before, rfl, first⟩
    refine ⟨tagged, c :: before, rfl, fun start rest cut' tagged' => ?_⟩
    cases start with
    | nil => exact absurd (cut' ▸ tagged') h
    | cons d start => exact Nat.succ_le_succ (first start rest (List.cons.inj cut').2 tagged')

theorem fromTag?_eq_some : fromTag? line = some text ↔ FirstTag line text := by
  induction line with
  | nil =>
    constructor
    · exact nofun
    · rintro ⟨tagged, before, cut, _⟩
      rw [(List.append_eq_nil_iff.1 cut.symm).2] at tagged
      exact absurd tagged (by decide)
  | cons c rest ih =>
    by_cases found : tag <+: c :: rest
    · rw [fromTag?_of_tagged found, firstTag_of_tagged found, Option.some_inj]
    · rw [fromTag?_cons found, firstTag_cons found, ih]

def entryOf (line : List Char) : Option (List Char) :=
  (fromTag? line).map Text.trimEnd

def entries (lines : List (List Char)) : List (List Char) :=
  lines.filterMap entryOf

theorem entries_cons_none {lines : List (List Char)} (h : fromTag? line = none) :
    entries (line :: lines) = entries lines :=
  List.filterMap_cons_none (by rw [entryOf, h, Option.map_none])

theorem entries_cons_some {lines : List (List Char)} (h : fromTag? line = some text) :
    entries (line :: lines) = Text.trimEnd text :: entries lines :=
  List.filterMap_cons_some (by rw [entryOf, h, Option.map_some])

/-- For each line with a tag, in order, what stands there from the first tag on. -/
def frames (log : String) : List (List Char) :=
  entries (Text.pieces '\n' log.toList)

def Remain (source : LineSource) (rest : List (List Char)) : Prop :=
  source.failure = none ∧ ∃ lines : List (List Char),
    source.lines = lines.map (fun line => some (String.ofList line)) ∧ entries lines = rest

theorem remain_ofText (log : String) : Remain (.ofText log) (frames log) :=
  ⟨rfl, Text.pieces '\n' log.toList, LineSource.lines_ofText log, rfl⟩

theorem nextFrame_lines (lines : List (List Char)) :
    ∃ after, nextFrame none (lines.map fun line => some (String.ofList line)) =
        (.ok ((entries lines).headD []), after.map fun line => some (String.ofList line)) ∧
      entries after = (entries lines).tail := by
  induction lines with
  | nil => exact ⟨[], rfl, rfl⟩
  | cons line lines ih =>
    cases found : fromTag? line with
    -- a line without a frame is passed over and adds no entry
    | none =>
      rw [entries_cons_none found]
      simpa only [List.map_cons, nextFrame, String.toList_ofList, found] using ih
    | some text =>
      rw [entries_cons_some found]
      refine ⟨lines, ?_, rfl⟩
      simp only [List.map_cons, nextFrame, String.toList_ofList, found, List.headD_cons]

theorem exists_check {source : LineSource} {rest : List (List Char)} (h : Remain source rest)
    (actual : String) :
    ∃ after, Remain after rest.tail ∧ check source actual =
      (if agree (rest.headD []) actual.toList then .ok ()
        else .error (.traceMismatch (String.ofList (rest.headD [])) actual), after) := by
  obtain ⟨readable, lines, shown, rfl⟩ := h
  obtain ⟨after, next, used⟩ := nextFrame_lines lines
  refine ⟨{ source with lines := after.map fun line => some (String.ofList line) },
    ⟨readable, after, rfl, used⟩, ?_⟩
  rw [check, readable, shown, next]

end ByteMachine.Trace
