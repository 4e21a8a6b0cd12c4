/-! Letter case, as far as it can make an ASCII word. -/

namespace ByteMachine.Text

/-- Besides the capitals only KELVIN SIGN becomes an ASCII letter. Every other character with a
lower-case form keeps a character outside ASCII, so that no word made of it is ever known. -/
def lowerChar (c : Char) : Char :=
  if c = '\u212a' then 'k' else c.toLower

def lower (text : List Char) : List Char :=
  text.map lowerChar

end ByteMachine.Text
