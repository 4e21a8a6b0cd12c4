import ByteMachine.Fault

/-! Where printed text goes: a device that may take only part of what it is offered, and the bytes
it has taken so far. -/

namespace ByteMachine

structure Refusal where
  taken : Nat
  reason : String
  deriving DecidableEq, Repr

structure Device where
  refuse : (taken offered : ByteArray) → Option Refusal := fun _ _ => none
  flushFailure : (taken : ByteArray) → Option String := fun _ => none

namespace Device

def ready : Device := {}

def limited (capacity : Nat) : Device :=
  { refuse := fun taken offered =>
      if taken.size + offered.size ≤ capacity then none
      else some { taken := capacity - taken.size, reason := "console full" } }

end Device

structure Console where
  device : Device := .ready
  written : ByteArray := .empty

namespace Console

def write (console : Console) (text : ByteArray) : Except Fault Unit × Console :=
  match console.device.refuse console.written text with
  | none => (.ok (), { console with written := console.written ++ text })
  | some refusal =>
    (.error (.io refusal.reason),
      { console with written := console.written ++ text.extract 0 refusal.taken })

def flush (console : Console) : Except Fault Unit :=
  match console.device.flushFailure console.written with
  | none => .ok ()
  | some reason => .error (.io reason)

end Console
end ByteMachine
