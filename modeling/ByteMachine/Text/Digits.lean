/-! Numbers written in decimal and in upper-case hexadecimal. -/

namespace ByteMachine.Text

def decimal (n : Nat) : String :=
  String.ofList (Nat.toDigits 10 n)

def hexDigits (n : Nat) : List Char :=
  (Nat.toDigits 16 n).map Char.toUpper

def hexPair (n : Nat) : String :=
  String.ofList ((hexDigits n).leftpad 2 '0')

def hexLiteral (n : Nat) : String :=
  "0x" ++ String.ofList (hexDigits n)

def hexPairLiteral (n : Nat) : String :=
  "0x" ++ hexPair n

end ByteMachine.Text
