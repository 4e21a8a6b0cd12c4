import ByteMachine.Numeral
import ByteMachine.Text.Letters

/-! The words of a debugger line, set apart by spaces and tabs or held together by quotes, and the
numbers among them. -/

namespace ByteMachine.Debugger

def isGap (c : Char) : Bool :=
  c == ' ' || c == '\t'

def isLineEnd (c : Char) : Bool :=
  c == '\n' || c == '\r'

def dropLineEnds (text : List Char) : List Char :=
  (text.reverse.dropWhile isLineEnd).reverse

def isQuote (c : Char) : Bool :=
  c == '"'

/-- `none` if a quote is never closed. A quote inside a word is a character like any other. -/
def split : List Char → Option (List (List Char))
  | [] => some []
  | c :: rest =>
    if isGap c then split rest
    else if isQuote c then
      if rest.any isQuote then
        (rest.takeWhile (!isQuote ·) :: ·) <$> split (rest.dropWhile (!isQuote ·)).tail
      else none
    else ((c :: rest.takeWhile (!isGap ·)) :: ·) <$> split (rest.dropWhile (!isGap ·))
  termination_by text => text.length
  decreasing_by
    · simp only [List.length_cons, Nat.lt_succ_self]
    · have := (List.dropWhile_sublist (!isQuote ·) (l := rest)).length_le
      simp only [List.length_cons, List.length_tail]
      omega
    · have := (List.dropWhile_sublist (!isGap ·) (l := rest)).length_le
      simp only [List.length_cons]
      omega

def arguments? (line : String) : Option (List String) :=
  (split (dropLineEnds line.toList)).map (List.map String.ofList)

def readNumber (text : String) : Except NumeralError UInt64 :=
  match Text.lower text.toList with
  | '0' :: 'x' :: digits => Numeral.readWord 16 digits
  | '0' :: 'b' :: digits => Numeral.readWord 2 digits
  | digits => Numeral.readWord 10 digits

end ByteMachine.Debugger
