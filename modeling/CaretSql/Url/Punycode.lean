/-! Punycode: a label whose characters beyond ASCII are written behind its last hyphen, each as a
number in base 36 that tells by how much its code point and place go up. -/

namespace CaretSql.Url.Punycode

def digit? (c : Char) : Option Nat :=
  if 'a' ≤ c ∧ c ≤ 'z' then some (c.toNat - 97)
  else if '0' ≤ c ∧ c ≤ '9' then some (c.toNat - 22)
  else none

/-- Brings a difference down to the range of a digit and counts the digits that this takes. -/
def scaleDown (k delta : Nat) : Nat :=
  if 455 < delta then scaleDown (k + 36) (delta / 35) else k + 36 * delta / (delta + 38)
termination_by delta
decreasing_by exact Nat.div_lt_self (by omega) (by omega)

/-- how large the next number is expected to be -/
def adapt (delta size : Nat) (first : Bool) : Nat :=
  let delta := delta / (if first then 700 else 2)
  scaleDown 0 (delta + delta / size)

/-- A number being read: its value so far, the weight of its next digit, and which digit that is. -/
structure Digits where
  value : Nat := 0
  weight : Nat := 1
  place : Nat := 36

/-- Reads numbers to the end; `index` and `code` are the place and code point of the character put
in last. -/
def insertAll : List Char → Digits → (index code bias : Nat) → List Char → Option (List Char)
  | [], d, _, _, _, out => if d.weight = 1 then some out else none
  | c :: rest, d, index, code, bias, out =>
    match digit? c with
    | none => none
    | some n =>
      let value := d.value + n * d.weight
      let least := max 1 (min 26 (d.place - bias))
      if Nat.pow 2 32 ≤ value then none
      else if least ≤ n then
        insertAll rest ⟨value, d.weight * (36 - least), d.place + 36⟩ index code bias out
      else
        let size := out.length + 1
        let code := code + (index + value) / size
        let place := (index + value) % size
        if code.isValidChar then
          insertAll rest {} (place + 1) code (adapt value size (index = 0))
            (out.take place ++ Char.ofNat code :: out.drop place)
        else none

def decode? (s : List Char) : Option (List Char) :=
  let digits := (s.reverse.takeWhile (· != '-')).reverse
  let plain := s.take (s.length - digits.length - 1)
  insertAll (if digits.length < s.length ∧ plain.isEmpty then s else digits) {} 0 128 72 plain

end CaretSql.Url.Punycode
