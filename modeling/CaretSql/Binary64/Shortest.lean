import CaretSql.Binary64.Basic

/-! The decimal text of a floating-point number: the fewest digits that read back as the number,
and of those the nearest. -/

namespace CaretSql.Binary64

/-- A decimal number: its digits as a whole number and the power of ten that they count. -/
structure Decimal where
  digits : Nat
  exponent : Int
deriving DecidableEq, Repr

/-- the point of the decimal grid `10 ^ e` that reads back as `x`, the nearer if both neighbours
of `x` on it do; `tieUp` says where a number halfway between them goes -/
def onGrid? (tieUp : Bool) (x : Binary64) (e : Int) : Option Nat :=
  let m := x.significand
  let unit := Nat.pow 2 x.scale.toNat * Nat.pow 10 (-e).toNat
  let grid := 4 * Nat.pow 2 (-x.scale).toNat * Nat.pow 10 e.toNat
  let below := if x.fraction = 0 ∧ 1 < x.exponentField then 1 else 2
  let low := (4 * m - below) * unit
  let high := (4 * m + 2) * unit
  let readsBack (d : Nat) : Bool :=
    0 < d && if m % 2 = 0 then low ≤ d * grid && d * grid ≤ high else low < d * grid && d * grid < high
  let d := 4 * m * unit / grid
  let rest := 4 * m * unit % grid
  match readsBack d, readsBack (d + 1) with
  | true, true => some (if 2 * rest < grid ∨ 2 * rest = grid ∧ !tieUp ∧ d % 2 = 0 then d else d + 1)
  | true, false => some d
  | false, true => some (d + 1)
  | false, false => none

def searchGrid (tieUp : Bool) (x : Binary64) : Nat → Int → Decimal
  | 0, e => ⟨0, e⟩
  | tries + 1, e =>
    match onGrid? tieUp x e with
    | some d => ⟨d, e⟩
    | none => searchGrid tieUp x tries (e - 1)

/-- The shortest decimal of a finite number's magnitude. The search starts above the number's
first digit, and seventeen digits always read back. -/
def shortest (tieUp : Bool) (x : Binary64) : Decimal :=
  if x.significand = 0 then ⟨0, 0⟩
  else searchGrid tieUp x 22 (((x.significand.log2 : Int) + x.scale) * 30103 / 100000 + 2)

/-- digits and a point at a place counted from the first digit, which may lie outside them -/
def placePoint (digits : List Char) (point : Int) : List Char :=
  if point ≤ 0 then '0' :: '.' :: List.replicate (-point).toNat '0' ++ digits
  else if digits.length ≤ point then digits ++ List.replicate (point.toNat - digits.length) '0'
  else digits.take point.toNat ++ '.' :: digits.drop point.toNat

/-- Never with an exponent; whole numbers without a point. -/
def display (x : Binary64) : String :=
  if x.isNaN then "NaN"
  else
    let sign := if x.negative then "-" else ""
    if !x.isFinite then sign ++ "inf"
    else
      let d := x.shortest true
      let digits := (toString d.digits).toList
      sign ++ String.ofList (placePoint digits (digits.length + d.exponent))

/-- The text of a finite number in JSON: always with a point or an exponent, and with an
exponent when the point would stand before five zeros or after sixteen digits. -/
def jsonText (x : Binary64) : String :=
  let sign := if x.negative then "-" else ""
  let d := x.shortest false
  let digits := (toString d.digits).toList
  let point := digits.length + d.exponent
  let body :=
    if d.digits = 0 then ['0', '.', '0']
    else if -5 < point ∧ point ≤ 16 then
      let placed := placePoint digits point
      if placed.contains '.' then placed else placed ++ ['.', '0']
    else
      let mantissa := digits.take 1 ++ if digits.length = 1 then [] else '.' :: digits.drop 1
      mantissa ++ 'e' :: (toString (point - 1)).toList
  sign ++ String.ofList body

end CaretSql.Binary64
