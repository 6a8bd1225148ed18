/-! Decimal numerals: an optional plus sign and at least one ASCII digit. -/

namespace CaretSql.Text.Numeral

def value (digits : List Char) : Nat := digits.foldl (fun n c => 10 * n + (c.toNat - 48)) 0

/-- Reads a numeral whose value is below `bound`. -/
def parse? (bound : Nat) (s : List Char) : Option Nat :=
  let digits := if s.head? = some '+' then s.drop 1 else s
  if digits.isEmpty ∨ !digits.all Char.isDigit then none
  else if value digits < bound then some (value digits) else none

end CaretSql.Text.Numeral
