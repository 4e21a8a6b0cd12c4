import Mathlib.Data.List.Sort
import ByteMachine.Proofs.Text.Digits
import ByteMachine.Proofs.Text.LineCut
import ByteMachine.Proofs.Trace.Spacing
import ByteMachine.State.Memory

/-! What a dump of memory shows: the cells asked for that there are, each at its own address, in
rows of sixteen that can be read back. Rows do not depend on where a dump is stopped behind them,
so that a dump can be taken in parts. -/

namespace ByteMachine

namespace Text

def IsHexPair (word : List Char) (n : Nat) : Prop :=
  ∃ high low, high ∈ hexAlphabet ∧ low ∈ hexAlphabet ∧ word = [high, low] ∧
    Numeral.Spells 16 word n

namespace IsHexPair

variable {word : List Char} {n : Nat} {c : Char}

theorem mem (h : IsHexPair word n) (mem : c ∈ word) : c ∈ hexAlphabet := by
  obtain ⟨high, low, hexHigh, hexLow, rfl, -⟩ := h
  rcases List.mem_pair.1 mem with rfl | rfl
  · exact hexHigh
  · exact hexLow

theorem isWord (h : IsHexPair word n) : IsWord word where
  ne_nil := by
    obtain ⟨high, low, -, -, rfl, -⟩ := h
    exact List.cons_ne_nil high [low]
  visible c mem := isWord_hexAlphabet.visible c (h.mem mem)

theorem lt (h : IsHexPair word n) : n < 256 := by
  obtain ⟨high, low, -, -, rfl, -, digits, written, rfl⟩ := h
  have two : digits.reverse.length = 2 := by rw [List.length_reverse, ← written.length_eq]; rfl
  have bound : Nat.ofDigits 16 digits.reverse < 16 ^ digits.reverse.length := by
    refine Nat.ofDigits_lt_base_pow_length (by decide) fun digit mem => ?_
    obtain ⟨c, small, -⟩ := exists_of_forall₂ written.flip (List.mem_reverse.1 mem)
    exact small
  rwa [two] at bound

theorem readByte_eq (h : IsHexPair word n) :
    Numeral.readByte 16 word = .ok (UInt8.ofNat n) := by
  have small := h.lt
  obtain ⟨_, _, _, _, _, spelled⟩ := h
  rw [← UInt8.toNat_ofNat_of_lt' small] at spelled
  exact Trace.readByte_of_spells spelled

end IsHexPair

theorem isHexPair_hexPair {n : Nat} (small : n < 256) : IsHexPair (hexPair n).toList n := by
  obtain ⟨high, low, hexHigh, hexLow, digits⟩ := hexPair_eq small
  exact ⟨high, low, hexHigh, hexLow, digits, spells_hexPair n⟩

variable {list : List (List Char)} {numbers : List Nat}

theorem words_spaced_pairs (pairs : List.Forall₂ IsHexPair list numbers) :
    words (spaced list) = list := by
  have none : ∀ c ∈ ([] : List Char), isBlank c := nofun
  have spread := spread_spaced none list
  rw [List.append_nil] at spread
  refine words_spread spread fun word mem => ?_
  obtain ⟨n, pair⟩ := exists_of_forall₂ pairs mem
  exact pair.isWord

end Text

namespace Memory

open Text (IsHexPair spaced)

variable {memory : Memory} {first count stop : Nat} {row : List Char}

def window (address length : Nat) : List Nat :=
  (List.range 256).filter fun x => address ≤ x ∧ x < address + length

theorem window_eq (address length : Nat) :
    window address length = List.range' address (min (address + length) 256 - address) := by
  refine (List.pairwise_lt_range.filter _).eq_of_mem_iff (List.pairwise_lt_range' 1) fun x => ?_
  simp only [List.mem_filter, List.mem_range, decide_eq_true_eq, List.mem_range'_1]
  omega

theorem length_window (address length : Nat) :
    (window address length).length = min (address + length) 256 - address := by
  rw [window_eq, List.length_range']

def entry (memory : Memory) (x : Nat) : Nat × UInt8 :=
  (x, memory.get (UInt8.ofNat x))

/-- A row is the address of its first cell, a colon and the cells, each behind a space. -/
def IsRow (memory : Memory) (first count : Nat) (row : List Char) : Prop :=
  ∃ label words, row = label ++ ':' :: spaced words ∧ IsHexPair label first ∧
    List.Forall₂ IsHexPair words
      ((List.range' first count).map fun x => (memory.get (UInt8.ofNat x)).toNat)

theorem IsRow.mem {c : Char} (h : memory.IsRow first count row) (mem : c ∈ row) :
    c ∈ Text.hexAlphabet ∨ c = ':' ∨ c = ' ' := by
  obtain ⟨label, words, rfl, address, cells⟩ := h
  rcases List.mem_append.1 mem with digit | behind
  · exact .inl (address.mem digit)
  · refine (List.mem_cons.1 behind).elim (fun colon => .inr (.inl colon)) fun among => ?_
    obtain ⟨word, shown, inside⟩ := List.mem_flatMap.1 among
    refine (List.mem_cons.1 inside).elim (fun space => .inr (.inr space)) fun digit => ?_
    obtain ⟨n, pair⟩ := exists_of_forall₂ cells shown
    exact .inl (pair.mem digit)

theorem IsRow.plain (h : memory.IsRow first count row) : '\n' ∉ row ∧ '\r' ∉ row :=
  ⟨fun mem => absurd (h.mem mem) (by decide), fun mem => absurd (h.mem mem) (by decide)⟩

def readRow (row : List Char) : Except NumeralError (List (Nat × UInt8)) := do
  let first ← Numeral.readByte 16 (row.takeWhile (· != ':'))
  let cells ← (Text.words ((row.dropWhile (· != ':')).drop 1)).mapM (Numeral.readByte 16)
  return (List.range' first.toNat cells.length).zip cells

def readDump (text : List Char) : Except NumeralError (List (Nat × UInt8)) := do
  return (← (Text.lines text).mapM readRow).flatten

theorem IsRow.readRow_eq (h : memory.IsRow first count row) :
    readRow row = .ok ((List.range' first count).map memory.entry) := by
  obtain ⟨label, words, rfl, address, cells⟩ := h
  have noColon : ∀ c ∈ label, (c != ':') = true := by
    have other : Text.hexAlphabet.all (· != ':') = true := by decide
    exact fun c mem => List.all_eq_true.1 other c (address.mem mem)
  have colon : Text.Stops (· != ':') (':' :: spaced words) := by
    rintro c ⟨⟩
    rfl
  have read : words.mapM (Numeral.readByte 16) =
      .ok ((List.range' first count).map fun x => memory.get (UInt8.ofNat x)) := by
    have pairs := List.forall₂_map_right_iff.1 cells
    refine Trace.mapM_eq_ok (List.forall₂_map_right_iff.2 (pairs.imp fun word x pair => ?_))
    rw [pair.readByte_eq, UInt8.ofNat_toNat]
  rw [readRow, Text.takeWhile_append_of_stops noColon colon,
    Text.dropWhile_append_of_stops noColon colon, List.drop_one, List.tail_cons,
    Text.words_spaced_pairs cells, read, address.readByte_eq]
  change Except.ok (List.zip _ _) = _
  rw [UInt8.toNat_ofNat_of_lt' address.lt, List.length_map, List.length_range',
    ← List.map_prod_left_eq_zip]
  rfl

theorem readDump_rows {rows : List (List Char)} {cells : List (List (Nat × UInt8))}
    (plain : ∀ row ∈ rows, '\n' ∉ row ∧ '\r' ∉ row)
    (read : List.Forall₂ (fun row shown => readRow row = .ok shown) rows cells) :
    readDump (rows.flatMap (· ++ ['\n'])) = .ok cells.flatten := by
  have lines := Text.lines_flatMap (fun row mem => (plain row mem).1)
    fun row mem last => (plain row mem).2 (List.mem_of_getLast? last)
  rw [readDump, lines, Trace.mapM_eq_ok read]
  rfl

def rowText (memory : Memory) (first stop : Nat) : List Char :=
  (Text.hexPair first).toList ++ ':' :: spaced ((List.range' first (stop - first)).map fun x =>
    (Text.hexPair (memory.get (UInt8.ofNat x)).toNat).toList)

theorem toList_hexRow (memory : Memory) (first stop : Nat) :
    (memory.hexRow first stop).toList = memory.rowText first stop ++ ['\n'] := by
  have cells := Text.toList_join_spaced
    (fun x => Text.hexPair (memory.get (UInt8.ofNat x)).toNat) (List.range' first (stop - first))
  simp only [hexRow, rowText, String.toList_append, cells]
  simp

theorem isRow_rowText (memory : Memory) (small : first < 256) (stop : Nat) :
    memory.IsRow first (stop - first) (memory.rowText first stop) := by
  refine ⟨_, _, rfl, Text.isHexPair_hexPair small, ?_⟩
  rw [List.forall₂_map_left_iff, List.forall₂_map_right_iff, List.forall₂_same]
  exact fun x _ => Text.isHexPair_hexPair (memory.get _).toNat_lt

theorem hexRows_eq_map (memory : Memory) (first stop : Nat) :
    memory.hexRows first stop = (List.range ((stop - first + 15) / 16)).map fun i =>
      memory.hexRow (first + 16 * i) (min (first + 16 * i + 16) stop) := by
  fun_induction hexRows memory first stop with
  | case1 first inside ih =>
    have one : (stop - first + 15) / 16 = (stop - (first + 16) + 15) / 16 + 1 := by omega
    have next (i : Nat) : first + 16 * (i + 1) = first + 16 + 16 * i := by omega
    rw [ih, one, List.range_succ_eq_map, List.map_cons, List.map_map]
    simp only [Function.comp_def, Nat.succ_eq_add_one, next, Nat.mul_zero, Nat.add_zero]
  | case2 first outside =>
    have none : (stop - first + 15) / 16 = 0 := by omega
    rw [none]
    rfl

theorem hexRows_of_le (memory : Memory) (past : stop ≤ first) : memory.hexRows first stop = [] := by
  rw [hexRows, if_neg (Nat.not_lt.2 past)]

theorem hexRows_of_lt (memory : Memory) (inside : first < stop) :
    memory.hexRows first stop =
      memory.hexRow first (min (first + 16) stop) :: memory.hexRows (first + 16) stop := by
  rw [hexRows, if_pos inside]

theorem hexRows_append (memory : Memory) {k : Nat} (inside : first + 16 * k ≤ stop) :
    memory.hexRows first stop =
      memory.hexRows first (first + 16 * k) ++ memory.hexRows (first + 16 * k) stop := by
  induction k generalizing first with
  | zero =>
    rw [Nat.mul_zero, Nat.add_zero, hexRows_of_le memory (Nat.le_refl first), List.nil_append]
  | succ k ih =>
    have next : first + 16 * (k + 1) = first + 16 + 16 * k := by omega
    have whole : min (first + 16) stop = min (first + 16) (first + 16 + 16 * k) := by omega
    rw [next] at inside ⊢
    rw [hexRows_of_lt memory (by omega : first < stop), ih inside, whole,
      hexRows_of_lt memory (by omega : first < first + 16 + 16 * k), List.cons_append]

theorem exists_rows (memory : Memory) (address length : UInt64) :
    let shown := window address.toNat length.toNat
    ∃ rows, (memory.hexDump address length).toList = rows.flatMap (· ++ ['\n']) ∧
      List.Forall₂ (fun row i =>
        memory.IsRow (address.toNat + 16 * i) (min 16 (shown.length - 16 * i)) row)
        rows (List.range ((shown.length + 15) / 16)) := by
  intro shown
  let stop := min (address.toNat + length.toNat) 256
  have size : shown.length = stop - address.toNat := length_window _ _
  refine ⟨(List.range ((shown.length + 15) / 16)).map fun i =>
    memory.rowText (address.toNat + 16 * i) (min (address.toNat + 16 * i + 16) stop), ?_, ?_⟩
  · rw [hexDump, hexRows_eq_map, size]
    simp only [String.toList_join, List.flatMap_map, toList_hexRow]
    rfl
  · rw [List.forall₂_map_left_iff, List.forall₂_same]
    intro i mem
    have inside : address.toNat + 16 * i < 256 := by
      have below := List.mem_range.1 mem
      omega
    have count : min 16 (shown.length - 16 * i) =
        min (address.toNat + 16 * i + 16) stop - (address.toNat + 16 * i) := by omega
    rw [count]
    exact memory.isRow_rowText inside _

theorem flatMap_range' (first size n : Nat) :
    ((List.range n).flatMap fun i => List.range' (first + 16 * i) (min 16 (size - 16 * i))) =
      List.range' first (min (16 * n) size) := by
  induction n with
  | zero => rw [Nat.mul_zero, Nat.zero_min]; rfl
  | succ n ih =>
    rw [List.range_succ, List.flatMap_append, List.flatMap_singleton, ih]
    rcases Nat.le_total (16 * n) size with inside | past
    · have total : min (16 * (n + 1)) size = 16 * n + min 16 (size - 16 * n) := by omega
      rw [Nat.min_eq_left inside, total, List.range'_append_1]
    · have nothing : min 16 (size - 16 * n) = 0 := by omega
      have total : min (16 * (n + 1)) size = min (16 * n) size := by omega
      rw [nothing, total, List.range'_zero, List.append_nil]

theorem readDump_of_isRow {rows : List (List Char)} {size : Nat}
    (laid : List.Forall₂ (fun row i => memory.IsRow (first + 16 * i) (min 16 (size - 16 * i)) row)
      rows (List.range ((size + 15) / 16))) :
    readDump (rows.flatMap (· ++ ['\n'])) = .ok ((List.range' first size).map memory.entry) := by
  have plain : ∀ row ∈ rows, '\n' ∉ row ∧ '\r' ∉ row := by
    intro row mem
    obtain ⟨i, shows⟩ := exists_of_forall₂ laid mem
    exact shows.plain
  have read : List.Forall₂ (fun row shown => readRow row = .ok shown) rows
      ((List.range ((size + 15) / 16)).map fun i =>
        (List.range' (first + 16 * i) (min 16 (size - 16 * i))).map memory.entry) :=
    List.forall₂_map_right_iff.2 (laid.imp fun row i shows => shows.readRow_eq)
  have all : min (16 * ((size + 15) / 16)) size = size := by omega
  rw [readDump_rows plain read, ← List.flatMap_def, ← List.map_flatMap, flatMap_range', all]

theorem hexDump_append (memory : Memory) (address : UInt64) {k l : Nat}
    (room : address.toNat + 16 * k + l < 2 ^ 64) :
    memory.hexDump address (UInt64.ofNat (16 * k + l)) =
      memory.hexDump address (UInt64.ofNat (16 * k)) ++
        memory.hexDump (address + UInt64.ofNat (16 * k)) (UInt64.ofNat l) := by
  have second : (address + UInt64.ofNat (16 * k)).toNat = address.toNat + 16 * k := by
    rw [UInt64.toNat_add, UInt64.toNat_ofNat_of_lt' (by omega : 16 * k < 2 ^ 64),
      Nat.mod_eq_of_lt (by omega)]
  rw [hexDump, hexDump, hexDump, second, UInt64.toNat_ofNat_of_lt' (by omega : 16 * k + l < 2 ^ 64),
    UInt64.toNat_ofNat_of_lt' (by omega : 16 * k < 2 ^ 64),
    UInt64.toNat_ofNat_of_lt' (by omega : l < 2 ^ 64), ← Nat.add_assoc, ← String.join_append]
  congr 1
  rcases Nat.le_total (address.toNat + 16 * k) 256 with inside | past
  · rw [Nat.min_eq_left inside]
    exact memory.hexRows_append (by omega)
  · -- nothing is left for the second part
    rw [hexRows_of_le memory (by omega : _ ≤ address.toNat + 16 * k), List.append_nil,
      Nat.min_eq_right past, Nat.min_eq_right (by omega)]

/-- A dump shows the cells asked for, no more and no fewer, and each where it is. It can be taken in
parts where all but the last end with a whole row. -/
theorem hexDump_exact (memory : Memory) (address length : UInt64) :
    let shown := window address.toNat length.toNat
    (∃ rows, (memory.hexDump address length).toList = rows.flatMap (· ++ ['\n']) ∧
      List.Forall₂ (fun row i =>
        memory.IsRow (address.toNat + 16 * i) (min 16 (shown.length - 16 * i)) row)
        rows (List.range ((shown.length + 15) / 16))) ∧
    readDump (memory.hexDump address length).toList = .ok (shown.map memory.entry) ∧
    (memory.hexDump address length = "" ↔ shown = []) ∧
    ∀ k l : Nat, address.toNat + 16 * k + l < 2 ^ 64 →
      memory.hexDump address (UInt64.ofNat (16 * k + l)) =
        memory.hexDump address (UInt64.ofNat (16 * k)) ++
          memory.hexDump (address + UInt64.ofNat (16 * k)) (UInt64.ofNat l) := by
  intro shown
  obtain ⟨rows, text, laid⟩ := memory.exists_rows address length
  have read : readDump (memory.hexDump address length).toList = .ok (shown.map memory.entry) := by
    have whole : shown = List.range' address.toNat shown.length := by
      rw [length_window, ← window_eq]
    rw [text, readDump_of_isRow laid, ← whole]
  refine ⟨⟨rows, text, laid⟩, read, ⟨fun empty => ?_, fun none => ?_⟩,
    fun k l room => memory.hexDump_append address room⟩
  · rw [empty] at read
    exact List.map_eq_nil_iff.1 (Except.ok.inj read).symm
  · rw [show window address.toNat length.toNat = [] from none] at laid
    rw [List.forall₂_nil_right_iff.1 laid] at text
    exact String.toList_eq_nil_iff.1 text

theorem hexDump_exact_saturating :
    let memory := (Memory.blank.set 0xE3 7).set 0xFF 9
    let shown := window 0xE3 (2 ^ 64 - 1)
    shown.length = 29 ∧ readDump (memory.hexDump 0xE3 0xFFFFFFFFFFFFFFFF).toList =
      .ok (shown.map memory.entry) ∧
    0xE3 + 16 * 1 + 13 < 2 ^ 64 ∧
    memory.hexDump 0xE3 29 = memory.hexDump 0xE3 16 ++ memory.hexDump 0xF3 13 := by
  intro memory shown
  obtain ⟨-, read, -, -⟩ := hexDump_exact memory 0xE3 0xFFFFFFFFFFFFFFFF
  obtain ⟨-, -, -, parts⟩ := hexDump_exact memory 0xE3 29
  exact ⟨by decide, read, by decide, parts 1 13 (by decide)⟩

end Memory
end ByteMachine
