import ByteMachine.Text.LineSource

/-! What comes of asking for a file by name. -/

namespace ByteMachine

inductive FileAccess where
  | missing
  | refused (reason : String)
  /-- It opens, but reading on fails after these bytes. -/
  | broken (bytes : ByteArray) (reason : String)
  | contents (bytes : ByteArray)

end ByteMachine
