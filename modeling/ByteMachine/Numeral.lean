/-! Unsigned numerals: digits of a radix after an optional plus sign, read from left to right up
to a limit. The first problem met is the one reported. -/

namespace ByteMachine

inductive NumeralError where
  | empty
  | badDigit
  | tooLarge
  deriving DecidableEq, Repr

def NumeralError.message : NumeralError → String
  | .empty => "cannot parse integer from empty string"
  | .badDigit => "invalid digit found in string"
  | .tooLarge => "number too large to fit in target type"

namespace Numeral

def digitValue? (radix : Nat) (c : Char) : Option Nat :=
  let value :=
    if '0' ≤ c ∧ c ≤ '9' then c.toNat - '0'.toNat
    else if 'a' ≤ c ∧ c ≤ 'z' then c.toNat - 'a'.toNat + 10
    else if 'A' ≤ c ∧ c ≤ 'Z' then c.toNat - 'A'.toNat + 10
    else radix
  if value < radix then some value else none

def readDigits (radix limit : Nat) : Nat → List Char → Except NumeralError Nat
  | value, [] => .ok value
  | value, c :: rest =>
    match digitValue? radix c with
    | none => .error .badDigit
    | some digit =>
      if value * radix + digit ≤ limit then readDigits radix limit (value * radix + digit) rest
      else .error .tooLarge

def read (radix limit : Nat) : List Char → Except NumeralError Nat
  | [] => .error .empty
  | ['+'] => .error .badDigit
  | '+' :: digits => readDigits radix limit 0 digits
  | digits => readDigits radix limit 0 digits

def readByte (radix : Nat) (text : List Char) : Except NumeralError UInt8 :=
  UInt8.ofNat <$> read radix 0xFF text

def readWord (radix : Nat) (text : List Char) : Except NumeralError UInt64 :=
  UInt64.ofNat <$> read radix 0xFFFFFFFFFFFFFFFF text

end Numeral
end ByteMachine
