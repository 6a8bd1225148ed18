/-! The range of a machine word, in which offsets, identifiers and counts are kept, and what becomes of a
sum that leaves it. -/

namespace CaretSql

/-- one more than the largest 64-bit word -/
def wordSize : Nat := Nat.pow 2 64

/-- A sum that no word holds. The program ends where it comes to one, whatever it was doing. -/
structure Overflow
deriving DecidableEq, Repr

end CaretSql
