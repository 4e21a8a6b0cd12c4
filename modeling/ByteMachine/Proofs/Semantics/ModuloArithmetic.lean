import ByteMachine.Proofs.Semantics.Footprint
import ByteMachine.Proofs.Semantics.LastComparison

/-! Arithmetic on registers against arithmetic on numbers: what an operation leaves in its register,
which flags a comparison sets, what stays as it was, and when an operation is refused. Carried out
one access after the other it does all of this or nothing. -/

namespace ByteMachine

/-- The results of operations, as numbers. -/
def Unary.Yields : Unary → Nat → Nat → Prop
  | .inc, x, result => result = (x + 1) % 256
  | .dec, x, result => (result : Int) = (x - 1 : Int) % 256
  | .not, x, result => result = x

def Binary.Yields : Binary → Nat → Nat → Nat → Prop
  | .add, x, y, result => result = (x + y) % 256
  | .sub, x, y, result => (result : Int) = (x - y : Int) % 256
  | .mul, x, y, result => result = x * y % 256
  | .div, x, y, result => ∃ rest, x = result * y + rest ∧ rest < y
  | .mod, x, y, result => ∃ quotient, x = quotient * y + result ∧ result < y
  | .and, x, y, result => ∀ i, result.testBit i = (x.testBit i && y.testBit i)
  | .or, x, y, result => ∀ i, result.testBit i = (x.testBit i || y.testBit i)
  | .xor, x, y, result => ∀ i, result.testBit i = (x.testBit i ^^ y.testBit i)
  | .shl, x, y, result => result = x * 2 ^ y % 256
  | .shr, x, y, result => result = x / 2 ^ y

theorem Unary.yields_apply (operation : Unary) (x : UInt8) :
    operation.Yields x.toNat (operation.apply x).toNat := by
  have bound := x.toNat_lt
  cases operation with
  | inc => exact UInt8.toNat_add x 1
  | dec =>
    have difference : (x - 1).toNat = (255 + x.toNat) % 256 := UInt8.toNat_sub x 1
    change ((x - 1).toNat : Int) = (x.toNat - 1 : Int) % 256
    omega
  | not => rfl

namespace Binary

variable {operation : Binary} {x y value : UInt8} {fault : Fault}

theorem toNat_shl (x y : UInt8) :
    (if y < 8 then x <<< y else 0).toNat = x.toNat * 2 ^ y.toNat % 256 := by
  split
  · rename_i small
    have small : y.toNat < 8 := UInt8.lt_iff_toNat_lt.1 small
    rw [UInt8.toNat_shiftLeft, Nat.mod_eq_of_lt small, Nat.shiftLeft_eq]
  · rename_i large
    have large : 8 ≤ y.toNat := UInt8.le_iff_toNat_le.1 (UInt8.not_lt.1 large)
    have wide : 256 ∣ 2 ^ y.toNat := pow_dvd_pow 2 large
    exact (Nat.mod_eq_zero_of_dvd (wide.mul_left x.toNat)).symm

theorem toNat_shr (x y : UInt8) :
    (if y < 8 then x >>> y else 0).toNat = x.toNat / 2 ^ y.toNat := by
  split
  · rename_i small
    have small : y.toNat < 8 := UInt8.lt_iff_toNat_lt.1 small
    rw [UInt8.toNat_shiftRight, Nat.mod_eq_of_lt small, Nat.shiftRight_eq_div_pow]
  · rename_i large
    have large : 8 ≤ y.toNat := UInt8.le_iff_toNat_le.1 (UInt8.not_lt.1 large)
    have wide : 2 ^ 8 ≤ 2 ^ y.toNat := Nat.pow_le_pow_right Nat.two_pos large
    exact (Nat.div_eq_of_lt (x.toNat_lt.trans_le wide)).symm

theorem yields_of_apply (h : operation.apply x y = .ok value) :
    operation.Yields x.toNat y.toNat value.toNat := by
  cases operation with
  | add =>
    cases h
    exact UInt8.toNat_add x y
  | sub =>
    cases h
    have bound := y.toNat_lt
    have difference : (x - y).toNat = (256 - y.toNat + x.toNat) % 256 := UInt8.toNat_sub x y
    change ((x - y).toNat : Int) = (x.toNat - y.toNat : Int) % 256
    omega
  | mul =>
    cases h
    exact UInt8.toNat_mul x y
  | div =>
    rw [apply] at h
    split_ifs at h with zero
    cases h
    have positive : 0 < y.toNat := Nat.pos_of_ne_zero fun same => zero (UInt8.toNat_inj.1 same)
    refine ⟨x.toNat % y.toNat, ?_, Nat.mod_lt _ positive⟩
    rw [UInt8.toNat_div, Nat.div_add_mod']
  | mod =>
    rw [apply] at h
    split_ifs at h with zero
    cases h
    have positive : 0 < y.toNat := Nat.pos_of_ne_zero fun same => zero (UInt8.toNat_inj.1 same)
    refine ⟨x.toNat / y.toNat, ?_, ?_⟩ <;> rw [UInt8.toNat_mod]
    · rw [Nat.div_add_mod']
    · exact Nat.mod_lt _ positive
  | and =>
    cases h
    intro i
    rw [UInt8.toNat_and, Nat.testBit_and]
  | or =>
    cases h
    intro i
    rw [UInt8.toNat_or, Nat.testBit_or]
  | xor =>
    cases h
    intro i
    rw [UInt8.toNat_xor, Nat.testBit_xor]
  | shl =>
    cases h
    exact toNat_shl x y
  | shr =>
    cases h
    exact toNat_shr x y

theorem apply_eq_error_iff :
    operation.apply x y = .error fault ↔
      y = 0 ∧ (operation = .div ∧ fault = .divisionByZero ∨
        operation = .mod ∧ fault = .moduloByZero) := by
  cases operation with
  | div | mod =>
    rw [apply]
    split_ifs with zero <;> simp [zero, eq_comm]
  | _ => simp [apply]

theorem div_mod_eq {a b quotient rest : Nat} (whole : a = quotient * b + rest)
    (small : rest < b) : quotient = a / b ∧ rest = a % b := by
  have split := (Nat.div_mod_unique (Nat.zero_lt_of_lt small)).2
    ⟨(Nat.add_comm _ _).trans (Nat.mul_comm b quotient ▸ whole.symm), small⟩
  exact ⟨split.1.symm, split.2.symm⟩

theorem Yields.unique {a b r r' : Nat} (h : operation.Yields a b r) (h' : operation.Yields a b r') :
    r = r' := by
  cases operation with
  | add | mul | shl | shr => exact h.trans h'.symm
  | sub => exact Int.ofNat.inj (h.trans h'.symm)
  | div =>
    obtain ⟨rest, whole, small⟩ := h
    obtain ⟨rest', whole', small'⟩ := h'
    exact (div_mod_eq whole small).1.trans (div_mod_eq whole' small').1.symm
  | mod =>
    obtain ⟨quotient, whole, small⟩ := h
    obtain ⟨quotient', whole', small'⟩ := h'
    exact (div_mod_eq whole small).2.trans (div_mod_eq whole' small').2.symm
  | and | or | xor => exact Nat.eq_of_testBit_eq fun i => (h i).trans (h' i).symm

theorem apply_eq_ok_iff :
    operation.apply x y = .ok value ↔ operation.Yields x.toNat y.toNat value.toNat := by
  refine ⟨yields_of_apply, fun yields => ?_⟩
  cases applied : operation.apply x y with
  | ok other =>
    have same := (yields_of_apply applied).unique yields
    rw [UInt8.toNat_inj.1 same]
  | error fault =>
    -- nothing is less than a divisor of zero
    obtain ⟨rfl, ⟨rfl, -⟩ | ⟨rfl, -⟩⟩ := apply_eq_error_iff.1 applied
    · obtain ⟨rest, -, small⟩ := yields
      exact absurd small (Nat.not_lt_zero rest)
    · obtain ⟨quotient, -, small⟩ := yields
      exact absurd small (Nat.not_lt_zero _)

end Binary

theorem Unary.apply_eq_iff {operation : Unary} {x value : UInt8} :
    operation.apply x = value ↔ operation.Yields x.toNat value.toNat := by
  have yields := operation.yields_apply x
  constructor
  · rintro rfl
    exact yields
  · intro yields'
    refine UInt8.toNat_inj.1 ?_
    cases operation with
    | inc | not => exact yields.trans yields'.symm
    | dec => exact Int.ofNat.inj (Eq.trans yields yields'.symm)

theorem Register.ofByte_eq_error_iff {operand : UInt8} {fault : Fault} :
    ofByte operand = .error fault ↔
      8 ≤ operand.toNat ∧ fault = .outOfBounds .register operand.toUInt64 := by
  rw [ofByte]
  split_ifs with low
  · simp only [false_iff, not_and]
    omega
  · simp only [Except.error.injEq, eq_comm, iff_and_self]
    omega

namespace Processor

variable {processor after : Processor} {operand x y value : UInt8} {target : Register}

theorem exists_ofByte (h : processor.registers[operand.toNat]? = some x) :
    ∃ register, Register.ofByte operand = .ok register ∧ processor.get register = x := by
  obtain ⟨low, same⟩ := Vector.getElem?_eq_some_iff.1 h
  exact ⟨⟨operand.toNat, low⟩, dif_pos low, same⟩

/-- The register that an operand names holds the value afterwards, and nothing else has changed. -/
structure Stores (processor : Processor) (operand value : UInt8) (after : Processor) : Prop where
  value : after.registers[operand.toNat]? = some value
  others : ∀ register : Register, register.val ≠ operand.toNat →
    after.get register = processor.get register
  pc : after.pc = processor.pc
  flags : after.flags = processor.flags

theorem stores_iff (named : Register.ofByte operand = .ok target) :
    processor.Stores operand value after ↔ after = processor.set target value := by
  have index := Register.val_of_ofByte named
  constructor
  · intro stores
    refine ext_get stores.pc (fun register => ?_) stores.flags
    rw [get_set]
    split_ifs with same
    · subst same
      have stored := stores.value
      rwa [after.getElem?_of_ofByte named, Option.some.injEq] at stored
    · exact stores.others register fun other => same (Fin.ext (index.trans other.symm))
  · rintro rfl
    refine ⟨?_, fun register other => ?_, rfl, rfl⟩
    · rw [getElem?_of_ofByte _ named, get_set, if_pos rfl]
    · rw [get_set, if_neg]
      rintro rfl
      exact other index

structure Compares (processor : Processor) (x y : Nat) (after : Processor) : Prop where
  equal : after.isEqual ↔ x = y
  greater : after.isGreater ↔ y < x
  less : after.isLess ↔ x < y
  single : after.flags ∈ [1, 2, 4]
  registers : after.registers = processor.registers
  pc : after.pc = processor.pc

theorem compares_iff :
    processor.Compares x.toNat y.toNat after ↔ after = processor.compare x y := by
  constructor
  · intro compares
    have bits (flags : UInt8) (one : flags = 1 ∨ flags = 2 ∨ flags = 4) :
        (flags &&& equalBit == equalBit → flags = equalBit) ∧
        (flags &&& greaterBit == greaterBit → flags = greaterBit) ∧
        (flags &&& lessBit == lessBit → flags = lessBit) := by
      rcases one with rfl | rfl | rfl <;> decide
    obtain ⟨equal, greater, less⟩ := bits _ (by simpa using compares.single)
    have flags : after.flags = (processor.compare x y).flags := by
      rcases processor.flags_compare_cases x y with ⟨order, up⟩ | ⟨order, up⟩ | ⟨order, up⟩ <;>
        rw [up]
      · exact equal (compares.equal.2 (congrArg UInt8.toNat order))
      · exact greater (compares.greater.2 order)
      · exact less (compares.less.2 order)
    obtain ⟨_, _, _⟩ := after
    cases compares.pc
    cases compares.registers
    cases flags
    rfl
  · rintro rfl
    refine ⟨?_, ?_, ?_, ?_, rfl, rfl⟩
    · rw [isEqual_compare, UInt8.toNat_inj]
    · rw [isGreater_compare, UInt8.lt_iff_toNat_lt]
    · rw [isLess_compare, UInt8.lt_iff_toNat_lt]
    · rcases processor.flags_compare_cases x y with ⟨-, flags⟩ | ⟨-, flags⟩ | ⟨-, flags⟩ <;>
        rw [flags] <;> decide

end Processor

namespace Opcode

inductive Calculates (first second : UInt8) (processor after : Processor) : Opcode → Prop
  | unary {operation : Unary} {x value : UInt8}
      (left : processor.registers[first.toNat]? = some x)
      (yields : operation.Yields x.toNat value.toNat)
      (stores : processor.Stores first value after) :
      Calculates first second processor after (.unary operation)
  | binary {operation : Binary} {x y value : UInt8}
      (left : processor.registers[first.toNat]? = some x)
      (right : processor.registers[second.toNat]? = some y)
      (yields : operation.Yields x.toNat y.toNat value.toNat)
      (stores : processor.Stores first value after) :
      Calculates first second processor after (.binary operation)
  | cmp {x y : UInt8} (left : processor.registers[first.toNat]? = some x)
      (right : processor.registers[second.toNat]? = some y)
      (compares : processor.Compares x.toNat y.toNat after) :
      Calculates first second processor after .cmp

inductive Refuses (first second : UInt8) (processor : Processor) (fault : Fault) : Opcode → Prop
  | noFirst {opcode : Opcode} (high : 8 ≤ first.toNat)
      (named : fault = .outOfBounds .register first.toUInt64) :
      Refuses first second processor fault opcode
  | noSecond {opcode : Opcode} (low : first.toNat < 8)
      (two : ∀ operation, opcode ≠ .unary operation) (high : 8 ≤ second.toNat)
      (named : fault = .outOfBounds .register second.toUInt64) :
      Refuses first second processor fault opcode
  | notArithmetic {opcode : Opcode} (low : first.toNat < 8) (low' : second.toNat < 8)
      (other : opcode.isArithmetic = false) (named : fault = .notArithmetic opcode) :
      Refuses first second processor fault opcode
  | division (low : first.toNat < 8) (zero : processor.registers[second.toNat]? = some 0)
      (named : fault = .divisionByZero) : Refuses first second processor fault (.binary .div)
  | modulo (low : first.toNat < 8) (zero : processor.registers[second.toNat]? = some 0)
      (named : fault = .moduloByZero) : Refuses first second processor fault (.binary .mod)

end Opcode

namespace Processor

variable {processor after : Processor} {opcode : Opcode} {first second : UInt8}
  {target source : Register} {fault : Fault}

theorem calculate_unary (named : Register.ofByte first = .ok target) (operation : Unary)
    (second : UInt8) : processor.calculate (.unary operation) first second =
      .ok (processor.set target (operation.apply (processor.get target))) := by
  rw [calculate, named]
  rfl

theorem calculate_binary (named : Register.ofByte first = .ok target)
    (other : Register.ofByte second = .ok source) (operation : Binary) :
    processor.calculate (.binary operation) first second =
      processor.set target <$> operation.apply (processor.get target) (processor.get source) := by
  rw [calculate, named]
  change (Register.ofByte second >>= _) = _
  rw [other]
  rfl

theorem calculate_cmp (named : Register.ofByte first = .ok target)
    (other : Register.ofByte second = .ok source) :
    processor.calculate .cmp first second =
      .ok (processor.compare (processor.get target) (processor.get source)) := by
  rw [calculate, named]
  change (Register.ofByte second >>= _) = _
  rw [other]
  rfl

theorem calculate_noFirst (missing : Register.ofByte first = .error fault) (opcode : Opcode)
    (second : UInt8) : processor.calculate opcode first second = .error fault := by
  rw [calculate, missing]
  rfl

theorem calculate_noSecond (named : Register.ofByte first = .ok target)
    (two : ∀ operation, opcode ≠ .unary operation)
    (missing : Register.ofByte second = .error fault) :
    processor.calculate opcode first second = .error fault := by
  cases opcode with
  | unary operation => exact absurd rfl (two operation)
  | _ =>
    rw [calculate, named]
    change (Register.ofByte second >>= _) = _
    rw [missing]
    rfl

theorem calculate_notArithmetic (named : Register.ofByte first = .ok target)
    (named' : Register.ofByte second = .ok source) (other : opcode.isArithmetic = false) :
    processor.calculate opcode first second = .error (.notArithmetic opcode) := by
  cases opcode with
  | unary | binary | cmp => cases other
  | _ =>
    rw [calculate, named]
    change (Register.ofByte second >>= _) = _
    rw [named']
    rfl

theorem calculate_of_calculates (h : opcode.Calculates first second processor after) :
    processor.calculate opcode first second = .ok after := by
  cases h with
  | unary left yields stores =>
    obtain ⟨target, named, rfl⟩ := exists_ofByte left
    rw [calculate_unary named, Unary.apply_eq_iff.2 yields, (stores_iff named).1 stores]
  | binary left right yields stores =>
    obtain ⟨target, named, rfl⟩ := exists_ofByte left
    obtain ⟨source, named', rfl⟩ := exists_ofByte right
    rw [calculate_binary named named', Binary.apply_eq_ok_iff.2 yields,
      (stores_iff named).1 stores]
    rfl
  | cmp left right compares =>
    obtain ⟨target, named, rfl⟩ := exists_ofByte left
    obtain ⟨source, named', rfl⟩ := exists_ofByte right
    rw [calculate_cmp named named', compares_iff.1 compares]

theorem calculate_of_refuses (h : opcode.Refuses first second processor fault) :
    processor.calculate opcode first second = .error fault := by
  have names {operand : UInt8} (low : operand.toNat < 8) :
      Register.ofByte operand = .ok ⟨operand.toNat, low⟩ := dif_pos low
  cases h with
  | noFirst high named => exact calculate_noFirst (Register.ofByte_eq_error_iff.2 ⟨high, named⟩) _ _
  | noSecond low two high named =>
    exact calculate_noSecond (names low) two (Register.ofByte_eq_error_iff.2 ⟨high, named⟩)
  | notArithmetic low low' other named =>
    rw [named]
    exact calculate_notArithmetic (names low) (names low') other
  | division low zero named | modulo low zero named =>
    obtain ⟨source, named', value⟩ := exists_ofByte zero
    rw [calculate_binary (names low) named', value, named]
    rfl

theorem calculates_or_refuses (processor : Processor) (opcode : Opcode) (first second : UInt8) :
    (∃ after, opcode.Calculates first second processor after) ∨
      ∃ fault, opcode.Refuses first second processor fault := by
  cases named : Register.ofByte first with
  | error fault =>
    obtain ⟨high, same⟩ := Register.ofByte_eq_error_iff.1 named
    exact .inr ⟨fault, .noFirst high same⟩
  | ok target =>
    have low : first.toNat < 8 := Register.val_of_ofByte named ▸ target.isLt
    have left := processor.getElem?_of_ofByte named
    have stores (value : UInt8) : processor.Stores first value (processor.set target value) :=
      (stores_iff named).2 rfl
    by_cases single : ∃ operation, opcode = .unary operation
    · obtain ⟨operation, rfl⟩ := single
      exact .inl ⟨_, .unary left (operation.yields_apply _) (stores _)⟩
    · have two : ∀ operation, opcode ≠ .unary operation := not_exists.1 single
      cases named' : Register.ofByte second with
      | error fault =>
        obtain ⟨high, same⟩ := Register.ofByte_eq_error_iff.1 named'
        exact .inr ⟨fault, .noSecond low two high same⟩
      | ok source =>
        have low' : second.toNat < 8 := Register.val_of_ofByte named' ▸ source.isLt
        have right := processor.getElem?_of_ofByte named'
        cases opcode with
        | unary operation => exact absurd rfl (two operation)
        | cmp => exact .inl ⟨_, .cmp left right (compares_iff.2 rfl)⟩
        | binary operation =>
          cases applied : operation.apply (processor.get target) (processor.get source) with
          | ok value =>
            exact .inl ⟨_, .binary left right (Binary.yields_of_apply applied) (stores value)⟩
          | error fault =>
            obtain ⟨zero, ⟨rfl, same⟩ | ⟨rfl, same⟩⟩ := Binary.apply_eq_error_iff.1 applied
            · exact .inr ⟨fault, .division low (zero ▸ right) same⟩
            · exact .inr ⟨fault, .modulo low (zero ▸ right) same⟩
        | _ => exact .inr ⟨_, .notArithmetic low low' rfl rfl⟩

theorem calculate_eq_ok_iff :
    processor.calculate opcode first second = .ok after ↔
      opcode.Calculates first second processor after := by
  refine ⟨fun calculated => ?_, calculate_of_calculates⟩
  rcases processor.calculates_or_refuses opcode first second with ⟨_, calculates⟩ | ⟨_, refuses⟩
  · rw [calculate_of_calculates calculates, Except.ok.injEq] at calculated
    exact calculated ▸ calculates
  · rw [calculate_of_refuses refuses] at calculated
    cases calculated

theorem calculate_eq_error_iff :
    processor.calculate opcode first second = .error fault ↔
      opcode.Refuses first second processor fault := by
  refine ⟨fun calculated => ?_, calculate_of_refuses⟩
  rcases processor.calculates_or_refuses opcode first second with ⟨_, calculates⟩ | ⟨_, refuses⟩
  · rw [calculate_of_calculates calculates] at calculated
    cases calculated
  · rw [calculate_of_refuses refuses, Except.error.injEq] at calculated
    exact calculated ▸ refuses

end Processor

namespace Action

def calculate (opcode : Opcode) (first second : UInt8) : Action Unit := do
  let left ← readRegister first
  match opcode with
  | .unary operation => writeRegister first (operation.apply left)
  | opcode =>
    let right ← readRegister second
    match opcode with
    | .binary operation =>
      let value ← liftExcept (operation.apply left right)
      writeRegister first value
    | .cmp => setProcessor ((← processor).compare left right)
    | opcode => throw (.notArithmetic opcode)

theorem run_calculate (opcode : Opcode) (first second : UInt8) (hardware : Hardware) :
    (calculate opcode first second).run hardware =
      match hardware.core.processor.calculate opcode first second with
      | .ok after => .ok () { hardware with core.processor := after }
      | .error fault => .error fault hardware := by
  simp only [calculate, EStateM.run_bind, run_readRegister]
  cases named : Register.ofByte first with
  | error fault => rw [Processor.calculate_noFirst named]
  | ok target =>
    by_cases single : ∃ operation, opcode = .unary operation
    · obtain ⟨operation, rfl⟩ := single
      simp only [run_writeRegister, named, Processor.calculate_unary named]
    · have two : ∀ operation, opcode ≠ .unary operation := not_exists.1 single
      cases named' : Register.ofByte second with
      | error fault =>
        rw [Processor.calculate_noSecond named two named']
        cases opcode with
        | unary operation => exact absurd rfl (two operation)
        | _ => simp only [EStateM.run_bind, run_readRegister, named']
      | ok source =>
        cases opcode with
        | unary operation => exact absurd rfl (two operation)
        | binary operation =>
          rw [Processor.calculate_binary named named']
          simp only [EStateM.run_bind, run_readRegister, named']
          cases operation.apply (hardware.core.processor.get target)
            (hardware.core.processor.get source) with
          | error fault => rfl
          | ok value => exact (run_writeRegister _ _ _).trans (by rw [named]; rfl)
        | cmp =>
          rw [Processor.calculate_cmp named named']
          simp only [EStateM.run_bind, run_readRegister, named']
          rfl
        | _ =>
          rw [Processor.calculate_notArithmetic named named' rfl]
          simp only [EStateM.run_bind, run_readRegister, named']
          rfl

theorem perform_arithmetic {opcode : Opcode} (arithmetic : opcode.isArithmetic)
    (first second : UInt8) (hardware : Hardware) :
    (opcode.perform first second).run hardware =
      (do calculate opcode first second; next opcode : Action Status).run hardware := by
  rw [Opcode.run_perform, EStateM.run_bind, run_calculate]
  cases opcode with
  | unary | binary | cmp =>
    simp only [Opcode.effect]
    cases hardware.core.processor.calculate _ first second <;> rfl
  | _ => cases arithmetic

/-- Operations calculate modulo 256 on the register of the first operand and leave everything else
as it was, or are refused for the reason given and leave everything as it was. -/
theorem arithmetic_modulo_byte (opcode : Opcode) (first second : UInt8) (hardware : Hardware) :
    (∀ after, hardware.core.processor.calculate opcode first second = .ok after ↔
      opcode.Calculates first second hardware.core.processor after) ∧
    (∀ fault, hardware.core.processor.calculate opcode first second = .error fault ↔
      opcode.Refuses first second hardware.core.processor fault) ∧
    (∀ after, (calculate opcode first second).run hardware = .ok () after ↔
      ∃ processor, opcode.Calculates first second hardware.core.processor processor ∧
        after = { hardware with core.processor := processor }) ∧
    (∀ fault after, (calculate opcode first second).run hardware = .error fault after ↔
      opcode.Refuses first second hardware.core.processor fault ∧ after = hardware) ∧
    (opcode.isArithmetic → (opcode.perform first second).run hardware =
      (do calculate opcode first second; next opcode : Action Status).run hardware) := by
  refine ⟨fun _ => Processor.calculate_eq_ok_iff, fun _ => Processor.calculate_eq_error_iff,
    fun after => ?_, fun fault after => ?_,
    fun arithmetic => perform_arithmetic arithmetic first second hardware⟩
  · rw [run_calculate]
    simp only [← Processor.calculate_eq_ok_iff]
    cases hardware.core.processor.calculate opcode first second <;> simp [eq_comm]
  · rw [run_calculate]
    rw [← Processor.calculate_eq_error_iff]
    cases hardware.core.processor.calculate opcode first second <;> simp [eq_comm]

theorem arithmetic_modulo_byte_edges :
    let holding (registers : Vector UInt8 8) : Hardware :=
      { core := { processor := { pc := 7, registers, flags := 2 } } }
    let hardware := holding #v[200, 3, 0, 9, 9, 9, 9, 9]
    (calculate (.binary .mul) 0 0).run hardware = .ok () (holding #v[64, 3, 0, 9, 9, 9, 9, 9]) ∧
    (calculate (.binary .shl) 1 0).run hardware = .ok () (holding #v[200, 0, 0, 9, 9, 9, 9, 9]) ∧
    (calculate (.binary .div) 0 2).run hardware = .error .divisionByZero hardware ∧
    Opcode.isArithmetic (.unary .inc) ∧ ((Opcode.unary .inc).perform 2 99).run hardware =
      (do calculate (.unary .inc) 2 99; next (.unary .inc) : Action Status).run hardware := by
  intro holding hardware
  obtain ⟨-, -, squares, -, -⟩ := arithmetic_modulo_byte (.binary .mul) 0 0 hardware
  obtain ⟨-, -, shifts, -, -⟩ := arithmetic_modulo_byte (.binary .shl) 1 0 hardware
  obtain ⟨-, -, -, divides, -⟩ := arithmetic_modulo_byte (.binary .div) 0 2 hardware
  obtain ⟨-, -, -, -, increments⟩ := arithmetic_modulo_byte (.unary .inc) 2 99 hardware
  have square : Binary.mul.Yields 200 200 (64 : UInt8).toNat := (rfl : 64 = 200 * 200 % 256)
  have shift : Binary.shl.Yields 3 200 (0 : UInt8).toNat := (rfl : 0 = 3 * 2 ^ 200 % 256)
  refine ⟨(squares _).2 ⟨_, .binary rfl rfl square ⟨?_, ?_, ?_, ?_⟩, rfl⟩,
    (shifts _).2 ⟨_, .binary rfl rfl shift ⟨?_, ?_, ?_, ?_⟩, rfl⟩,
    (divides _ _).2 ⟨.division (by decide) rfl rfl, rfl⟩, rfl, increments rfl⟩ <;> decide

end Action
end ByteMachine
