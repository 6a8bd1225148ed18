import CaretSql.Binary64.Basic
import CaretSql.Text.Utf8
import CaretSql.Toml.Value

/-! Numbers and dates. Underscores may stand between digits; integers have 64 bits with a sign. -/

namespace CaretSql.Toml

/-- The digits at the head of a text, and the text after them; an underscore needs a digit on
both sides. -/
def digits (isDigit : Char → Bool) : List Char → List Char × List Char
  | '_' :: c :: rest =>
    if isDigit c then
      let (ds, after) := digits isDigit rest
      (c :: ds, after)
    else ([], '_' :: c :: rest)
  | c :: rest =>
    if isDigit c then
      let (ds, after) := digits isDigit rest
      (c :: ds, after)
    else ([], c :: rest)
  | [] => ([], [])

/-- at least one digit; an underscore that no digit follows is an error -/
def digits? (isDigit : Char → Bool) (s : List Char) : Option (List Char × List Char) :=
  if s.head?.any isDigit then
    let (ds, rest) := digits isDigit s
    if rest.head? = some '_' then none else some (ds, rest)
  else none

def digitValue (c : Char) : Nat := (Text.hexValue? c).getD 0

def magnitude (base : Nat) (ds : List Char) : Nat := ds.foldl (fun n c => base * n + digitValue c) 0

def sign (s : List Char) : Bool × List Char :=
  match s with
  | '-' :: rest => (true, rest)
  | '+' :: rest => (false, rest)
  | s => (false, s)

def inRange? (i : Int) : Option Int :=
  if -Nat.pow 2 63 ≤ i ∧ i < Nat.pow 2 63 then some i else none

/-- whole digits without leading zeros -/
def whole? (s : List Char) : Option (List Char × List Char) :=
  match s with
  | '0' :: rest => some (['0'], rest)
  | s => digits? Char.isDigit s

def based? (base : Nat) (s : List Char) : Option (Value × List Char) := do
  let (ds, rest) ← digits? (fun c => (Text.hexValue? c).any (· < base)) s
  return (.integer (← inRange? (magnitude base ds)), rest)

def integer? (s : List Char) : Option (Value × List Char) :=
  match s with
  | '0' :: 'x' :: rest => based? 16 rest
  | '0' :: 'o' :: rest => based? 8 rest
  | '0' :: 'b' :: rest => based? 2 rest
  | s => do
    let (negative, s) := sign s
    let (ds, rest) ← whole? s
    let n : Int := magnitude 10 ds
    return (.integer (← inRange? (if negative then -n else n)), rest)

/-- Does this decimal round to infinity? -/
def isTooLarge (ds : List Char) (exponent : Int) : Bool :=
  let m := magnitude 10 ds
  let size := (Nat.toDigits 10 m).length + exponent
  m != 0 && (309 < size || (0 ≤ size && !(Binary64.ofRatio false (m * Nat.pow 10 exponent.toNat)
    (Nat.pow 10 (-exponent).toNat)).isFinite))

/-- A float, if the number that begins here is one. `some none` is a float that is no number. -/
def float? (s : List Char) : Option (Option (Value × List Char)) :=
  let (negative, s) := sign s
  if "inf".toList.isPrefixOf s ∨ "nan".toList.isPrefixOf s then some (some (.float, s.drop 3))
  else match whole? s with
    | none => none
    | some (ds, rest) =>
      let startsExponent (s : List Char) : Bool := s.head? == some 'e' || s.head? == some 'E'
      let withExponent (ds : List Char) (places : Nat) (s : List Char) : Option (Value × List Char) :=
        if startsExponent s then do
          let (down, s) := sign (s.drop 1)
          let (es, rest) ← digits? Char.isDigit s
          let e : Int := magnitude 10 es
          if isTooLarge ds ((if down then -e else e) - places) ∧ !negative then none
          else some (.float, rest)
        else if isTooLarge ds (-places) ∧ !negative then none
        else some (.float, s)
      match rest with
      | '.' :: rest =>
        some do
          let (places, rest) ← digits? Char.isDigit rest
          withExponent (ds ++ places) places.length rest
      | rest => if startsExponent rest then some (withExponent ds 0 rest) else none

/-- a number of exactly so many digits that is not above a bound -/
def field? (width least most : Nat) (s : List Char) : Option (Nat × List Char) :=
  let ds := s.take width
  if ds.length = width ∧ ds.all Char.isDigit then
    let n := magnitude 10 ds
    if least ≤ n ∧ n ≤ most then some (n, s.drop width) else none
  else none

def expect? (c : Char) (s : List Char) : Option (List Char) :=
  if s.head? = some c then some (s.drop 1) else none

def daysIn (year month : Nat) : Nat :=
  if month = 2 then
    if year % 4 = 0 ∧ (year % 100 ≠ 0 ∨ year % 400 = 0) then 29 else 28
  else if month ∈ [4, 6, 9, 11] then 30 else 31

/-- hours, minutes and seconds, after which a fraction may come -/
def time? (s : List Char) : Option (List Char) := do
  let (_, s) ← field? 2 0 23 s
  let (_, s) ← field? 2 0 59 (← expect? ':' s)
  let (_, s) ← field? 2 0 60 (← expect? ':' s)
  match s with
  | '.' :: rest =>
    let fraction := rest.takeWhile Char.isDigit
    if fraction.isEmpty then none else some (rest.drop fraction.length)
  | s => some s

def offset? (s : List Char) : Option (List Char) :=
  match s with
  | 'Z' :: rest | 'z' :: rest => some rest
  | c :: rest =>
    if c = '+' ∨ c = '-' then do
      let (_, s) ← field? 2 0 23 rest
      let (_, s) ← field? 2 0 59 (← expect? ':' s)
      return s
    else some s
  | [] => some []

def startsTime (s : List Char) : Bool :=
  (s.take 2).length == 2 && (s.take 2).all Char.isDigit && (s.drop 2).head? == some ':'

/-- A date, a time or both, if what begins here is one. `some none` is one that cannot be. -/
def datetime? (s : List Char) : Option (Option (Value × List Char)) :=
  if (s.take 4).length = 4 ∧ (s.take 4).all Char.isDigit ∧ (s.drop 4).head? = some '-' then
    some do
      let (year, s) ← field? 4 0 9999 s
      let (month, s) ← field? 2 1 12 (← expect? '-' s)
      let (_, s) ← field? 2 1 (daysIn year month) (← expect? '-' s)
      match s with
      | c :: rest =>
        if (c = 'T' ∨ c = 't' ∨ c = ' ') ∧ startsTime rest then
          return (.datetime, ← offset? (← time? rest))
        else return (.datetime, s)
      | [] => return (.datetime, [])
  else if startsTime s then some ((time? s).map (.datetime, ·))
  else none

/-- A value that begins with a digit or a sign. -/
def number? (s : List Char) : Option (Value × List Char) :=
  match datetime? s with
  | some answer => answer
  | none =>
    match float? s with
    | some answer => answer
    | none => integer? s

end CaretSql.Toml
