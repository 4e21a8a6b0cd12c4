import ByteMachine.Fault

/-! Two hundred and fifty-six byte cells. A byte always names a cell; a wider address may not. -/

namespace ByteMachine

structure Memory where
  cells : Vector UInt8 256
  deriving DecidableEq

namespace Memory

def blank : Memory := ⟨Vector.replicate 256 0⟩

def get (memory : Memory) (cell : UInt8) : UInt8 :=
  memory.cells[cell.toFin]

def set (memory : Memory) (cell value : UInt8) : Memory :=
  ⟨memory.cells.set cell.toFin value⟩

theorem get_set (memory : Memory) (cell other value : UInt8) :
    (memory.set cell value).get other = if cell = other then value else memory.get other := by
  simp only [get, set, Fin.getElem_fin, Vector.getElem_set, UInt8.toFin_val, UInt8.toNat_inj]

theorem ext_get {a b : Memory} (h : ∀ cell, a.get cell = b.get cell) : a = b := by
  obtain ⟨a⟩ := a
  obtain ⟨b⟩ := b
  refine congrArg Memory.mk (Vector.ext fun i hi => ?_)
  have := h (UInt8.ofNat i)
  simpa only [get, Fin.getElem_fin, UInt8.toFin_val, UInt8.toNat_ofNat', Nat.reducePow,
    Nat.mod_eq_of_lt hi] using this

def read (memory : Memory) (address : UInt64) : Except Fault UInt8 :=
  if h : address.toNat < 256 then .ok memory.cells[address.toNat]
  else .error (.outOfBounds .memory address)

def write (memory : Memory) (address : UInt64) (value : UInt8) : Except Fault Memory :=
  if h : address.toNat < 256 then .ok ⟨memory.cells.set address.toNat value⟩
  else .error (.outOfBounds .memory address)

theorem read_cell (memory : Memory) (cell : UInt8) :
    memory.read cell.toUInt64 = .ok (memory.get cell) := by
  rw [read, dif_pos (by simpa only [UInt8.toNat_toUInt64] using cell.toNat_lt)]
  simp only [get, Fin.getElem_fin, UInt8.toNat_toUInt64, UInt8.toFin_val]

theorem write_cell (memory : Memory) (cell value : UInt8) :
    memory.write cell.toUInt64 value = .ok (memory.set cell value) := by
  rw [write, dif_pos (by simpa only [UInt8.toNat_toUInt64] using cell.toNat_lt)]
  simp only [set, UInt8.toNat_toUInt64, UInt8.toFin_val]

theorem read_eq_error_iff {memory : Memory} {address : UInt64} {fault : Fault} :
    memory.read address = .error fault ↔
      256 ≤ address.toNat ∧ fault = .outOfBounds .memory address := by
  unfold read
  split
  · simp only [reduceCtorEq, false_iff, not_and]
    omega
  · simp only [Except.error.injEq, eq_comm, iff_and_self]
    omega

/-- Bytes go to successive cells. Those before the first address out of bounds stay written. -/
def copy (memory : Memory) (address : UInt64) : List UInt8 → Except Fault Unit × Memory
  | [] => (.ok (), memory)
  | byte :: rest =>
    match memory.write address byte with
    | .error fault => (.error fault, memory)
    | .ok memory => memory.copy (address + 1) rest

def hexRow (memory : Memory) (first : Nat) (stop : Nat) : String :=
  Text.hexPair first ++ ":" ++
    String.join ((List.range' first (stop - first)).map fun address =>
      " " ++ Text.hexPair (memory.get (UInt8.ofNat address)).toNat) ++ "\n"

def hexRows (memory : Memory) (first stop : Nat) : List String :=
  if first < stop then
    memory.hexRow first (min (first + 16) stop) :: memory.hexRows (first + 16) stop
  else []
  termination_by stop - first

def hexDump (memory : Memory) (address length : UInt64) : String :=
  String.join (memory.hexRows address.toNat (min (address.toNat + length.toNat) 256))

end Memory
end ByteMachine
