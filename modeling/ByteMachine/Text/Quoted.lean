import ByteMachine.Text.GraphemeExtend
import ByteMachine.Text.Unprintable

/-! Text between double quotes, with everything escaped that could not be told apart on a screen. -/

namespace ByteMachine.Text

def hangulFillers : List Char :=
  ['\u115f', '\u1160', '\u3164', '\uffa0']

def halfwidthMarks : List Char :=
  ['\uff9e', '\uff9f']

def isHidden (c : Char) : Bool :=
  isUnprintable c || hangulFillers.contains c || (isGraphemeExtend c && !halfwidthMarks.contains c)

def codePointEscape (c : Char) : List Char :=
  ['\\', 'u', '\x7b'] ++ Nat.toDigits 16 c.toNat ++ ['\x7d']

def escapeChar (c : Char) : List Char :=
  match c with
  | '"' => ['\\', '"']
  | '\\' => ['\\', '\\']
  | '\t' => ['\\', 't']
  | '\r' => ['\\', 'r']
  | '\n' => ['\\', 'n']
  | '\x00' => ['\\', '0']
  | c => if isHidden c then codePointEscape c else [c]

def quoted (text : List Char) : String :=
  String.ofList ('"' :: text.flatMap escapeChar ++ ['"'])

end ByteMachine.Text
