import ByteMachine.Proofs.Program.Listing
import ByteMachine.Proofs.Semantics.Runs
import ByteMachine.Proofs.State.Copying

/-! Programs that are accepted, loaded into a machine that has not run yet. -/

namespace ByteMachine

theorem Machine.exists_load_eq {bytes : List UInt8} (fits : bytes.length ≤ Program.capacity)
    (console : Console) :
    ∃ memory, ({ console } : Machine).load bytes = (.ok (), { core := { memory }, console }) ∧
      memory.cells.toList = bytes ++ List.replicate (Program.capacity - bytes.length) 0 := by
  obtain ⟨memory, loaded, overlaid⟩ := exists_load_snd { console } bytes
  refine ⟨memory, Prod.ext ((load_fst { console } bytes).trans (if_pos fits)) loaded, ?_⟩
  have zeros : Memory.blank.cells.toList.drop bytes.length =
      List.replicate (Program.capacity - bytes.length) 0 := by
    rw [Memory.blank, Vector.toList_replicate, List.drop_replicate, Program.capacity]
  rw [overlaid.toList_eq]
  exact congrArg₂ (· ++ ·) (List.take_of_length_le fits) zeros

theorem Machine.load_eq_loaded {bytes : List UInt8} (fits : bytes.length ≤ Program.capacity)
    (console : Console) :
    ({ console } : Machine).load bytes = (.ok (), loaded console bytes) := by
  obtain ⟨memory, load, -⟩ := exists_load_eq fits console
  rw [loaded, load]

namespace Program

/-- Exactly the encodings of at most as many bytes as there are cells are accepted; the listings
of bytes are among them; and what is accepted fills the first cells, with zeros after it. -/
theorem format_exact_and_loads :
    (∀ source bytes,
      parse source = .ok bytes ↔ bytes.length ≤ capacity ∧ Encodes source.toList bytes) ∧
    (∀ bytes, bytes.length ≤ capacity → ∀ rows last,
      (rows ++ [last]).filterMap Row.byte = bytes →
        parse (String.ofList (listing rows last)) = .ok bytes) ∧
    ∀ source bytes, parse source = .ok bytes → ∀ console : Console,
      ∃ memory, ({ console } : Machine).load bytes = (.ok (), { core := { memory }, console }) ∧
        memory.cells.toList = bytes ++ List.replicate (capacity - bytes.length) 0 := by
  refine ⟨fun source bytes => parse_eq_ok_iff, fun bytes fits rows last holds =>
    parse_listing holds fits, fun source bytes accepted console => ?_⟩
  exact Machine.exists_load_eq (parse_eq_ok_iff.1 accepted).1 console

theorem format_exact_and_loads_remarks :
    let rows : List Row := [{ remark := some " two".toList },
      { indent := [' ', ' '], byte := some 0x82, gap := ['\t'], remark := some " first\r".toList }]
    let source := String.ofList (listing rows { byte := some 1 })
    source = "# two\n  10000010\t# first\r\n00000001" ∧
    parse source = .ok [0x82, 1] ∧ Encodes source.toList [0x82, 1] ∧
    ∃ memory, ({} : Machine).load [0x82, 1] = (.ok (), { core := { memory } }) ∧
      memory.cells.toList = [0x82, 1] ++ List.replicate 254 0 := by
  intro rows source
  have accepted : parse source = .ok [0x82, 1] :=
    format_exact_and_loads.2.1 [0x82, 1] (by decide) rows { byte := some 1 } rfl
  exact ⟨by decide, accepted, ((format_exact_and_loads.1 source [0x82, 1]).1 accepted).2,
    format_exact_and_loads.2.2 source [0x82, 1] accepted {}⟩

example : parse "+000000000101" = .ok [5] := by decide

end Program
end ByteMachine
