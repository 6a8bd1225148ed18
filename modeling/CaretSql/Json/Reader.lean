import CaretSql.Json.Basic
import CaretSql.Text.Utf8
import CaretSql.Word

/-! Reading JSON text. Of fields with the same name the last one counts. A number without a point
or an exponent is whole if it fits a word; any other is floating-point, and so is minus zero. -/

namespace CaretSql.Json

def skipBlank (s : List Char) : List Char :=
  s.dropWhile fun c => c == ' ' || c == '\n' || c == '\t' || c == '\r'

def codeUnit? (s : List Char) : Option (Nat × List Char) :=
  if s.length < 4 then none
  else ((s.take 4).foldlM (fun n c => (Text.hexValue? c).map (16 * n + ·)) 0).map (·, s.drop 4)

def escapedUnits? (s : List Char) : Option (Char × List Char) := do
  let (high, rest) ← codeUnit? s
  if 0xD800 ≤ high ∧ high < 0xDC00 then
    match rest with
    | '\\' :: 'u' :: rest =>
      let (low, rest) ← codeUnit? rest
      if 0xDC00 ≤ low ∧ low < 0xE000 then
        return (Char.ofNat (0x10000 + (high - 0xD800) * 0x400 + (low - 0xDC00)), rest)
      else none
    | _ => none
  else if 0xDC00 ≤ high ∧ high < 0xE000 then none
  else return (Char.ofNat high, rest)

def escape? : List Char → Option (Char × List Char)
  | '"' :: rest => some ('"', rest)
  | '\\' :: rest => some ('\\', rest)
  | '/' :: rest => some ('/', rest)
  | 'b' :: rest => some ('\x08', rest)
  | 'f' :: rest => some ('\x0c', rest)
  | 'n' :: rest => some ('\n', rest)
  | 'r' :: rest => some ('\r', rest)
  | 't' :: rest => some ('\t', rest)
  | 'u' :: rest => escapedUnits? rest
  | _ => none

/-- a string after its opening quote; `fuel` bounds its characters -/
def stringTail : Nat → List Char → Option (List Char × List Char)
  | 0, _ => none
  | _ + 1, [] => none
  | fuel + 1, c :: rest =>
    if c = '"' then some ([], rest)
    else if c = '\\' then do
      let (c, rest) ← escape? rest
      let (cs, rest) ← stringTail fuel rest
      return (c :: cs, rest)
    else if c.toNat < 0x20 then none
    else (stringTail fuel rest).map fun (cs, rest) => (c :: cs, rest)

/-- What a number's digits come to: as many of them as a word holds, and the power of ten that
they count. -/
structure Digits where
  significand : Nat := 0
  exponent : Int := 0

/-- Takes digits in; after the first that overflows the word the rest only count. -/
def Digits.whole : Digits → List Char → Digits
  | d, [] => d
  | d, c :: rest =>
    let next := 10 * d.significand + (c.toNat - 48)
    if next < wordSize then Digits.whole { d with significand := next } rest
    else { d with exponent := (c :: rest).length }

/-- Takes digits behind the point in; from the first that overflows the word they are dropped. -/
def Digits.places : Digits → List Char → Digits
  | d, [] => d
  | d, c :: rest =>
    let next := 10 * d.significand + (c.toNat - 48)
    if next < wordSize then Digits.places ⟨next, d.exponent - 1⟩ rest else d

/-- The significand times its power of ten, both rounded before they are multiplied or divided.
Powers beyond the largest are divided by in steps, of which two bring any word to zero. -/
def Digits.toBinary64? (d : Digits) : Option Binary64 :=
  let power (n : Nat) : Binary64 := .ofRatio false (Nat.pow 10 n) 1
  let x := Binary64.ofInt d.significand
  if d.significand = 0 then some x
  else if 0 ≤ d.exponent then
    if 308 < d.exponent then none
    else
      let y := x.mul (power d.exponent.toNat)
      if y.isFinite then some y else none
  else
    let down := (-d.exponent).toNat
    if down ≤ 308 then some (x.div (power down))
    else if down ≤ 616 then some ((x.div (power 308)).div (power (down - 308)))
    else some (.ofInt 0)

/-- an optional sign and at least one digit; an exponent too large for its counter leaves only
zeros and, going up, nothing -/
def exponent? (s : List Char) : Option (Int × List Char) :=
  let (down, s) := match s with
    | '-' :: rest => (true, rest)
    | '+' :: rest => (false, rest)
    | s => (false, s)
  let ds := s.takeWhile Char.isDigit
  if ds.isEmpty then none
  else
    let n : Int := ds.foldl (fun n c => 10 * n + (c.toNat - 48)) 0
    some (if down then -n else n, s.drop ds.length)

def negate (x : Binary64) : Binary64 := ⟨x.bits + 0x8000000000000000⟩

/-- a number; leading zeros are refused -/
def number? (s : List Char) : Option (Json × List Char) := do
  let negative := s.head? = some '-'
  let s := if negative then s.drop 1 else s
  let ds := s.takeWhile Char.isDigit
  let rest := s.drop ds.length
  if ds.isEmpty ∨ (ds.head? = some '0' ∧ 1 < ds.length) then none
  let digits := Digits.whole {} ds
  let float (d : Digits) (rest : List Char) : Option (Json × List Char) :=
    d.toBinary64?.map fun x => (.float (if negative then negate x else x), rest)
  let scaled (d : Digits) (rest : List Char) : Option (Json × List Char) :=
    match rest with
    | c :: more =>
      if c = 'e' ∨ c = 'E' then do
        let (e, rest) ← exponent? more
        float { d with exponent := d.exponent + e } rest
      else float d rest
    | [] => float d []
  match rest with
  | '.' :: more =>
    let places := more.takeWhile Char.isDigit
    if places.isEmpty then none
    scaled (digits.places places) (more.drop places.length)
  | rest =>
    if rest.head? = some 'e' ∨ rest.head? = some 'E' then scaled digits rest
    else if digits.exponent ≠ 0 then float digits rest
    else if !negative then some (.int digits.significand, rest)
    else if 0 < digits.significand ∧ digits.significand ≤ Nat.pow 2 63 then
      some (.int (-digits.significand), rest)
    else float digits rest

def putField (fields : List (String × Json)) (name : String) (value : Json) :
    List (String × Json) :=
  fields.filter (·.1 != name) ++ [(name, value)]

mutual

/-- the value at the head of a text; `fuel` bounds the steps -/
def value? : Nat → List Char → Option (Json × List Char)
  | 0, _ => none
  | fuel + 1, s =>
    match skipBlank s with
    | '"' :: rest => (stringTail (rest.length + 1) rest).map fun (cs, rest) => (text cs, rest)
    | '[' :: rest =>
      match skipBlank rest with
      | ']' :: rest => some (.array [], rest)
      | rest => (items? fuel rest).map fun (items, rest) => (.array items, rest)
    | '\x7b' :: rest =>
      match skipBlank rest with
      | '\x7d' :: rest => some (.object [], rest)
      | rest => (fields? fuel [] rest).map fun (fields, rest) => (.object fields, rest)
    | 't' :: 'r' :: 'u' :: 'e' :: rest => some (.bool true, rest)
    | 'f' :: 'a' :: 'l' :: 's' :: 'e' :: rest => some (.bool false, rest)
    | 'n' :: 'u' :: 'l' :: 'l' :: rest => some (.null, rest)
    | s => number? s

/-- the rest of an array, from an element on -/
def items? : Nat → List Char → Option (List Json × List Char)
  | 0, _ => none
  | fuel + 1, s => do
    let (item, s) ← value? fuel s
    match skipBlank s with
    | ',' :: rest =>
      let (items, rest) ← items? fuel rest
      return (item :: items, rest)
    | ']' :: rest => return ([item], rest)
    | _ => none

/-- the rest of an object, from a field on, with the fields before it -/
def fields? : Nat → List (String × Json) → List Char → Option (List (String × Json) × List Char)
  | 0, _, _ => none
  | fuel + 1, before, s =>
    match skipBlank s with
    | '"' :: rest => do
      let (name, rest) ← stringTail (rest.length + 1) rest
      match skipBlank rest with
      | ':' :: rest =>
        let (value, rest) ← value? fuel rest
        let fields := putField before (String.ofList name) value
        match skipBlank rest with
        | ',' :: rest => fields? fuel fields rest
        | '\x7d' :: rest => return (fields, rest)
        | _ => none
      | _ => none
    | _ => none

end

def parse? (s : List Char) : Option Json :=
  match value? (2 * s.length + 1) s with
  | some (j, rest) => if (skipBlank rest).isEmpty then some j else none
  | none => none

end CaretSql.Json
