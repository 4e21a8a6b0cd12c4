import ByteMachine.State.Processor

/-! Arithmetic and logic on registers. Results wrap at eight bits and land in the first register;
a comparison only sets the flags. -/

namespace ByteMachine

/-- Complementing is a known gap of the machine: the value stays as it is. -/
def Unary.apply : Unary → UInt8 → UInt8
  | .inc, x => x + 1
  | .dec, x => x - 1
  | .not, x => x

def Binary.apply : Binary → UInt8 → UInt8 → Except Fault UInt8
  | .add, x, y => .ok (x + y)
  | .sub, x, y => .ok (x - y)
  | .mul, x, y => .ok (x * y)
  | .div, x, y => if y = 0 then .error .divisionByZero else .ok (x / y)
  | .mod, x, y => if y = 0 then .error .moduloByZero else .ok (x % y)
  | .and, x, y => .ok (x &&& y)
  | .or, x, y => .ok (x ||| y)
  | .xor, x, y => .ok (x ^^^ y)
  | .shl, x, y => .ok (if y < 8 then x <<< y else 0)
  | .shr, x, y => .ok (if y < 8 then x >>> y else 0)

def Processor.calculate (processor : Processor) (opcode : Opcode) (first second : UInt8) :
    Except Fault Processor := do
  let target ← Register.ofByte first
  match opcode with
  | .unary operation => return processor.set target (operation.apply (processor.get target))
  | opcode =>
    let source ← Register.ofByte second
    match opcode with
    | .binary operation =>
      let value ← operation.apply (processor.get target) (processor.get source)
      return processor.set target value
    | .cmp => return processor.compare (processor.get target) (processor.get source)
    | opcode => throw (.notArithmetic opcode)

end ByteMachine
