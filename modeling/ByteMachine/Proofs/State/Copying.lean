import Mathlib.Logic.Basic
import ByteMachine.Proofs.Semantics.Runs

/-! Bytes copied into memory lie over what was there, as far as there are cells for them, whether
there was room for all of them or not. Loading a program is nothing but such a copy. -/

namespace ByteMachine

namespace Memory

variable {memory middle after other : Memory} {first : Nat} {address : UInt64} {byte : UInt8}
  {bytes earlier later rest : List UInt8}

/-- The bytes lie one after the other from an address on, those that there is a cell for. All
other cells are as they were. -/
structure Overlaid (memory : Memory) (first : Nat) (bytes : List UInt8) (after : Memory) :
    Prop where
  covered : ∀ i (within : i < bytes.length) (cell : first + i < 256),
    after.cells[first + i] = bytes[i]
  kept : ∀ x (cell : x < 256), (∀ i < bytes.length, x ≠ first + i) →
    after.cells[x] = memory.cells[x]

namespace Overlaid

theorem nil (memory : Memory) (first : Nat) : memory.Overlaid first [] memory where
  covered _ within _ := absurd within (Nat.not_lt_zero _)
  kept _ _ _ := rfl

theorem of_le (past : 256 ≤ first) (memory : Memory) (bytes : List UInt8) :
    memory.Overlaid first bytes memory where
  covered _ _ cell := absurd cell (by omega)
  kept _ _ _ := rfl

theorem cons (inside : first < 256)
    (h : Overlaid ⟨memory.cells.set first byte⟩ (first + 1) rest after) :
    memory.Overlaid first (byte :: rest) after where
  covered i within cell := by
    cases i with
    | zero =>
      -- nothing behind it comes back to this cell
      have stays := h.kept first inside fun i _ => by omega
      exact stays.trans (Vector.getElem_set_self inside)
    | succ i =>
      have next : first + (i + 1) = first + 1 + i := by omega
      simp only [next, List.getElem_cons_succ]
      exact h.covered i (Nat.lt_of_succ_lt_succ within) (next ▸ cell)
  kept x cell apart := by
    have here : first ≠ x := fun same => apart 0 (Nat.succ_pos _) same.symm
    have stays := h.kept x cell fun i lt same =>
      apart (i + 1) (Nat.succ_lt_succ lt) (by omega)
    exact stays.trans (Vector.getElem_set_ne inside cell here)

theorem unique (h : memory.Overlaid first bytes after) (h' : memory.Overlaid first bytes other) :
    after = other := by
  obtain ⟨cells⟩ := after
  obtain ⟨others⟩ := other
  refine congrArg Memory.mk (Vector.ext fun x cell => ?_)
  by_cases covered : ∃ i < bytes.length, x = first + i
  · obtain ⟨i, within, rfl⟩ := covered
    exact (h.covered i within cell).trans (h'.covered i within cell).symm
  · have apart : ∀ i < bytes.length, x ≠ first + i := fun i lt same => covered ⟨i, lt, same⟩
    exact (h.kept x cell apart).trans (h'.kept x cell apart).symm

theorem trans (h : memory.Overlaid first earlier middle)
    (h' : middle.Overlaid first later after) :
    memory.Overlaid first (later ++ earlier.drop later.length) after where
  covered i within cell := by
    rcases Nat.lt_or_ge i later.length with front | behind
    · rw [List.getElem_append_left front]
      exact h'.covered i front cell
    · have back : i < earlier.length := by
        rw [List.length_append, List.length_drop] at within
        omega
      have stays := h'.kept (first + i) cell fun j lt => by omega
      rw [stays, h.covered i back cell, List.getElem_append_right behind, List.getElem_drop]
      simp only [Nat.add_sub_of_le behind]
  kept x cell apart := by
    rw [List.length_append, List.length_drop] at apart
    rw [h'.kept x cell fun i lt => apart i (by omega), h.kept x cell fun i lt => apart i (by omega)]

theorem toList_eq (h : memory.Overlaid 0 bytes after) :
    after.cells.toList = bytes.take 256 ++ memory.cells.toList.drop bytes.length := by
  refine List.ext_getElem ?_ fun x cell inside => ?_
  · simp only [Vector.length_toList, List.length_append, List.length_take, List.length_drop]
    omega
  · rw [Vector.length_toList] at cell
    rw [Vector.getElem_toList]
    rcases Nat.lt_or_ge x bytes.length with front | behind
    · have covered := h.covered x front (by omega)
      simp only [Nat.zero_add] at covered
      rw [List.getElem_append_left (by rw [List.length_take]; omega), List.getElem_take, covered]
    · have length : (bytes.take 256).length = bytes.length := by rw [List.length_take]; omega
      rw [List.getElem_append_right (length ▸ behind), List.getElem_drop, Vector.getElem_toList,
        h.kept x cell fun i lt => by omega]
      simp only [length, Nat.add_sub_of_le behind]

end Overlaid

theorem write_of_lt (inside : address.toNat < 256) (value : UInt8) :
    memory.write address value = .ok ⟨memory.cells.set address.toNat value⟩ :=
  dif_pos inside

theorem write_of_le (past : 256 ≤ address.toNat) (value : UInt8) :
    memory.write address value = .error (.outOfBounds .memory address) :=
  dif_neg (Nat.not_lt.2 past)

theorem copy_cons_of_lt (inside : address.toNat < 256) (byte : UInt8) (rest : List UInt8) :
    memory.copy address (byte :: rest) =
      copy ⟨memory.cells.set address.toNat byte⟩ (address + 1) rest := by
  rw [copy, write_of_lt inside]

theorem copy_cons_of_le (past : 256 ≤ address.toNat) (byte : UInt8) (rest : List UInt8) :
    memory.copy address (byte :: rest) = (.error (.outOfBounds .memory address), memory) := by
  rw [copy, write_of_le past]

theorem toNat_next (inside : address.toNat < 256) : (address + 1).toNat = address.toNat + 1 :=
  toNat_add_near (Nat.le_of_lt inside) (by decide)

theorem overlaid_copy (memory : Memory) (address : UInt64) (bytes : List UInt8) :
    memory.Overlaid address.toNat bytes (memory.copy address bytes).2 := by
  induction bytes generalizing memory address with
  | nil => exact .nil memory address.toNat
  | cons byte rest ih =>
    rcases Nat.lt_or_ge address.toNat 256 with inside | past
    · rw [copy_cons_of_lt inside]
      exact .cons inside (toNat_next inside ▸ ih _ _)
    · rw [copy_cons_of_le past]
      exact .of_le past memory _

theorem max_next (inside : address.toNat < 256) : max (address + 1) 256 = max address 256 := by
  have below : address ≤ 256 := UInt64.le_iff_toNat_le.2 (Nat.le_of_lt inside)
  have next : address + 1 ≤ 256 := UInt64.le_iff_toNat_le.2 (toNat_next inside ▸ inside)
  exact (if_pos next).trans (if_pos below).symm

theorem max_of_le (past : 256 ≤ address.toNat) : max address 256 = address := by
  refine ite_eq_right_iff.2 fun below => UInt64.toNat_inj.1 ?_
  exact Nat.le_antisymm past (UInt64.le_iff_toNat_le.1 below)

theorem copy_fst (memory : Memory) (address : UInt64) (bytes : List UInt8) :
    (memory.copy address bytes).1 =
      if bytes = [] ∨ address.toNat + bytes.length ≤ 256 then .ok ()
      else .error (.outOfBounds .memory (max address 256)) := by
  induction bytes generalizing memory address with
  | nil => exact (if_pos (.inl rfl)).symm
  | cons byte rest ih =>
    rcases Nat.lt_or_ge address.toNat 256 with inside | past
    · have room : rest = [] ∨ (address + 1).toNat + rest.length ≤ 256 ↔
          byte :: rest = [] ∨ address.toNat + (byte :: rest).length ≤ 256 := by
        rw [toNat_next inside, ← List.length_eq_zero_iff, ← List.length_eq_zero_iff,
          List.length_cons]
        omega
      rw [copy_cons_of_lt inside, ih, max_next inside]
      exact if_congr room rfl rfl
    · have none : ¬(byte :: rest = [] ∨ address.toNat + (byte :: rest).length ≤ 256) := by
        rw [← List.length_eq_zero_iff, List.length_cons]
        omega
      rw [copy_cons_of_le past, if_neg none, max_of_le past]

/-- The copy with every address worked out from the first one and the position of its byte. It has
no outcome if such a sum is too large for a word. -/
def copyFrom (memory : Memory) (first passed : Nat) :
    List UInt8 → Option (Except Fault Unit × Memory)
  | [] => some (.ok (), memory)
  | byte :: rest =>
    if first + passed < UInt64.size then
      match memory.write (UInt64.ofNat (first + passed)) byte with
      | .error fault => some (.error fault, memory)
      | .ok memory => memory.copyFrom first (passed + 1) rest
    else none

theorem copyFrom_eq_some {passed : Nat} (sum : address.toNat = first + passed) :
    memory.copyFrom first passed bytes = some (memory.copy address bytes) := by
  induction bytes generalizing memory address passed with
  | nil => rfl
  | cons byte rest ih =>
    have word : first + passed < UInt64.size := sum ▸ address.toNat_lt_size
    rw [copyFrom, if_pos word, ← sum, UInt64.ofNat_toNat]
    rcases Nat.lt_or_ge address.toNat 256 with inside | past
    · rw [write_of_lt inside, copy_cons_of_lt inside]
      exact ih (by rw [toNat_next inside, sum, Nat.add_assoc])
    · rw [write_of_le past, copy_cons_of_le past]

end Memory

namespace Machine

theorem load_fst (machine : Machine) (program : List UInt8) :
    (machine.load program).1 =
      if program.length ≤ 256 then .ok () else .error (.outOfBounds .memory 256) := by
  have room : program = [] ∨ (0 : UInt64).toNat + program.length ≤ 256 ↔ program.length ≤ 256 := by
    rw [← List.length_eq_zero_iff, UInt64.toNat_zero]
    omega
  exact (Memory.copy_fst machine.core.memory 0 program).trans (if_congr room rfl rfl)

theorem exists_load_snd (machine : Machine) (program : List UInt8) :
    ∃ after, (machine.load program).2 = { machine with core.memory := after } ∧
      machine.core.memory.Overlaid 0 program after :=
  ⟨_, rfl, Memory.overlaid_copy machine.core.memory 0 program⟩

theorem load_load (machine : Machine) (earlier program : List UInt8) :
    ((machine.load earlier).2.load program).2 =
      (machine.load (program ++ earlier.drop program.length)).2 := by
  obtain ⟨middle, loaded, overlaid⟩ := machine.exists_load_snd earlier
  rw [loaded]
  obtain ⟨after, reloaded, laid⟩ :=
    exists_load_snd { machine with core.memory := middle } program
  obtain ⟨whole, once, all⟩ := machine.exists_load_snd (program ++ earlier.drop program.length)
  rw [reloaded, once, (overlaid.trans laid).unique all]

end Machine

namespace Memory

/-- A copy for which there is room succeeds, and any other is refused at the first address without
a cell. Either way the bytes are left in the cells that there are for them, all other cells are as
they were, and no address was too large for a word. So loading changes the cells of the program
and nothing else about a machine, and what is left of an earlier program stays behind it. -/
theorem copy_exact_also_refused (memory : Memory) (address : UInt64) (bytes : List UInt8) :
    (memory.copy address bytes).1 =
      (if bytes = [] ∨ address.toNat + bytes.length ≤ 256 then .ok ()
      else .error (.outOfBounds .memory (max address 256))) ∧
    memory.Overlaid address.toNat bytes (memory.copy address bytes).2 ∧
    memory.copyFrom address.toNat 0 bytes = some (memory.copy address bytes) ∧
    ∀ machine : Machine,
      (machine.load bytes).1 =
        (if bytes.length ≤ 256 then .ok () else .error (.outOfBounds .memory 256)) ∧
      (∃ after, (machine.load bytes).2 = { machine with core.memory := after } ∧
        after.cells.toList =
          bytes.take 256 ++ machine.core.memory.cells.toList.drop bytes.length) ∧
      ∀ earlier, ((machine.load earlier).2.load bytes).2 =
        (machine.load (bytes ++ earlier.drop bytes.length)).2 := by
  refine ⟨copy_fst memory address bytes, overlaid_copy memory address bytes,
    copyFrom_eq_some rfl, fun machine => ⟨machine.load_fst bytes, ?_, fun earlier =>
      machine.load_load earlier bytes⟩⟩
  obtain ⟨after, loaded, overlaid⟩ := machine.exists_load_snd bytes
  exact ⟨after, loaded, overlaid.toList_eq⟩

theorem copy_exact_also_refused_edges :
    let copied := blank.copy 0xFE [1, 2, 3]
    let machine : Machine := {}
    copied.1 = .error (.outOfBounds .memory 256) ∧
    copied.2.cells[0] = 0 ∧ copied.2.cells[0xFE] = 1 ∧ copied.2.cells[0xFF] = 2 ∧
    (blank.copy 0xFFFFFFFFFFFFFFFF [1, 2]).1 =
      .error (.outOfBounds .memory 0xFFFFFFFFFFFFFFFF) ∧
    ((machine.load [1, 2, 3]).2.load [9]).2 = (machine.load [9, 2, 3]).2 := by
  intro copied machine
  obtain ⟨refused, overlaid, -, -⟩ := copy_exact_also_refused blank 0xFE [1, 2, 3]
  obtain ⟨beyond, -, -, -⟩ := copy_exact_also_refused blank 0xFFFFFFFFFFFFFFFF [1, 2]
  obtain ⟨-, -, -, loads⟩ := copy_exact_also_refused blank 0 [9]
  exact ⟨refused, overlaid.kept 0 (by decide) (by decide),
    overlaid.covered 0 (by decide) (by decide), overlaid.covered 1 (by decide) (by decide), beyond,
    (loads machine).2.2 [1, 2, 3]⟩

end Memory
end ByteMachine
