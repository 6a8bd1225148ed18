import CaretSql.Rounding

/-! Binary floating-point numbers of 64 bits, kept as their bits. A finite one is its
significand times a power of two. -/

namespace CaretSql

structure Binary64 where
  bits : UInt64
deriving DecidableEq, Repr

namespace Binary64

def negative (x : Binary64) : Bool := Nat.pow 2 63 ≤ x.bits.toNat

def exponentField (x : Binary64) : Nat := x.bits.toNat / Nat.pow 2 52 % 2048

def fraction (x : Binary64) : Nat := x.bits.toNat % Nat.pow 2 52

def isFinite (x : Binary64) : Bool := x.exponentField != 2047

def isNaN (x : Binary64) : Bool := !x.isFinite && x.fraction != 0

def significand (x : Binary64) : Nat :=
  if x.exponentField = 0 then x.fraction else Nat.pow 2 52 + x.fraction

def scale (x : Binary64) : Int := (max x.exponentField 1 : Nat) - 1075

def infinityBits : Nat := 2047 * Nat.pow 2 52

def ofMagnitude (negative : Bool) (bits : Nat) : Binary64 :=
  ⟨UInt64.ofNat (min bits infinityBits + if negative then Nat.pow 2 63 else 0)⟩

/-- The number nearest to a quotient, an exact half going to the even significand; too large
a quotient gives infinity. -/
def ofRatio (negative : Bool) (num den : Nat) : Binary64 :=
  if num = 0 then ofMagnitude negative 0
  else
    let e : Int := (num.log2 : Int) - den.log2
    let e := if num * Nat.pow 2 (-e).toNat < den * Nat.pow 2 e.toNat then e - 1 else e
    let q := max (e - 52) (-1074)
    let m := roundHalfEven (num * Nat.pow 2 (-q).toNat) (den * Nat.pow 2 q.toNat)
    ofMagnitude negative ((q + 1074).toNat * Nat.pow 2 52 + m)

def ofInt (n : Int) : Binary64 := ofRatio (n < 0) n.natAbs 1

def ratio (x : Binary64) : Nat × Nat :=
  (x.significand * Nat.pow 2 x.scale.toNat, Nat.pow 2 (-x.scale).toNat)

def mul (x y : Binary64) : Binary64 :=
  ofRatio (x.negative != y.negative) (x.ratio.1 * y.ratio.1) (x.ratio.2 * y.ratio.2)

def div (x y : Binary64) : Binary64 :=
  ofRatio (x.negative != y.negative) (x.ratio.1 * y.ratio.2) (x.ratio.2 * y.ratio.1)

/-- Widens a number of 32 bits. A signalling NaN becomes a quiet one. -/
def ofBits32 (bits : UInt32) : Binary64 :=
  let negative : Bool := Nat.pow 2 31 ≤ bits.toNat
  let field := bits.toNat / Nat.pow 2 23 % 256
  let fraction := bits.toNat % Nat.pow 2 23
  if field = 255 then
    let payload := if fraction = 0 then 0 else Nat.pow 2 51 + fraction % Nat.pow 2 22 * Nat.pow 2 29
    ⟨UInt64.ofNat (infinityBits + payload + if negative then Nat.pow 2 63 else 0)⟩
  else
    let m := if field = 0 then fraction else Nat.pow 2 23 + fraction
    ofRatio negative (m * Nat.pow 2 (max field 1)) (Nat.pow 2 150)

end Binary64

end CaretSql
