import CaretSql.Text.Percent

/-! Form encoding of names and values (application/x-www-form-urlencoded): a blank is a plus
sign, and of all others only letters, digits and `* - . _` stand for themselves. -/

namespace CaretSql.Text.Form

def isKept (c : Char) : Bool := c.isAlphanum || c == '*' || c == '-' || c == '.' || c == '_'

def encode (s : List Char) : List Char :=
  s.flatMap fun c => if c = ' ' then ['+'] else if isKept c then [c] else Percent.encodeChar c

def encodePair (name value : List Char) : List Char := encode name ++ '=' :: encode value

def decode? (s : List Char) : Option (List Char) :=
  Percent.decode? (s.map fun c => if c = '+' then ' ' else c)

/-- the pairs of a form, each split at its first equals sign; empty pieces are no pairs -/
def pairs? (s : List Char) : Option (List (List Char × List Char)) :=
  ((s.splitOn '&').filter (!·.isEmpty)).mapM fun piece => do
    let name := piece.takeWhile (· != '=')
    return (← decode? name, ← decode? (piece.drop (name.length + 1)))

end CaretSql.Text.Form
