import CaretSql.Rounding

/-! Durations, in whole nanoseconds. -/

namespace CaretSql

structure Duration where
  nanoseconds : Nat
deriving DecidableEq, Repr, Inhabited

namespace Duration

/-- The largest unit with a non-zero whole part, as its name and its nanoseconds. -/
def displayUnit (d : Duration) : String × Nat :=
  if Nat.pow 10 9 ≤ d.nanoseconds then ("s", Nat.pow 10 9)
  else if Nat.pow 10 6 ≤ d.nanoseconds then ("ms", Nat.pow 10 6)
  else if Nat.pow 10 3 ≤ d.nanoseconds then ("µs", Nat.pow 10 3)
  else ("ns", 1)

/-- Two decimals in the display unit; rounding may reach a thousand of it but never moves on to
the next. -/
def display (d : Duration) : String :=
  let (name, unit) := d.displayUnit
  let hundredths := roundHalfEven (d.nanoseconds * 100) unit
  let decimals := toString (hundredths % 100)
  toString (hundredths / 100) ++ "." ++ (if hundredths % 100 < 10 then "0" else "") ++ decimals
    ++ name

end Duration

structure Timings where
  execute : Duration
  fetch : Duration
deriving DecidableEq, Repr, Inhabited

namespace Timings

def total (t : Timings) : Duration := ⟨t.execute.nanoseconds + t.fetch.nanoseconds⟩

def display (t : Timings) : String :=
  "execute " ++ t.execute.display ++ ", fetch " ++ t.fetch.display ++ ", total " ++ t.total.display

end Timings

end CaretSql
