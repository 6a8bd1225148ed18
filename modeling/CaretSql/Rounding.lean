/-! Rounding a quotient to the nearest whole number; an exact half goes to the even neighbour. -/

namespace CaretSql

def roundHalfEven (n d : Nat) : Nat :=
  let k := n / d
  if 2 * (n % d) < d then k
  else if d < 2 * (n % d) then k + 1
  else k + k % 2

end CaretSql
