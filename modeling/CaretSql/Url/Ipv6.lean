import CaretSql.Text.Utf8

/-! IPv6 addresses: eight groups of sixteen bits. One run of zero groups may be left out between
two colons, and the last two groups may be written as an IPv4 address. -/

namespace CaretSql.Url.Ipv6

/-- one to four hexadecimal digits -/
def group? (s : List Char) : Option Nat :=
  if 1 ≤ s.length ∧ s.length ≤ 4 then
    s.foldlM (fun n c => (Text.hexValue? c).map (16 * n + ·)) 0
  else none

def octet? (s : List Char) : Option Nat :=
  if 1 ≤ s.length ∧ s.length ≤ 3 ∧ s.all Char.isDigit ∧ (s.head? ≠ some '0' ∨ s.length = 1) then
    let n := s.foldl (fun n c => 10 * n + (c.toNat - 48)) 0
    if n ≤ 255 then some n else none
  else none

/-- four octets with points between them, as two groups -/
def quad? (s : List Char) : Option (List Nat) :=
  match (s.splitOn '.').mapM octet? with
  | some [a, b, c, d] => some [256 * a + b, 256 * c + d]
  | _ => none

/-- groups with colons between them; only the last may be an IPv4 address -/
def groups? : List (List Char) → Option (List Nat)
  | [] => some []
  | [last] => ((group? last).map ([·])).or (quad? last)
  | first :: more => return (← group? first) :: (← groups? more)

def groupsOf? (s : List Char) : Option (List Nat) :=
  if s.isEmpty then some [] else groups? (s.splitOn ':')

/-- the text before and after the first pair of colons -/
def splitAtGap : List Char → Option (List Char × List Char)
  | [] => none
  | ':' :: ':' :: rest => some ([], rest)
  | c :: rest => (splitAtGap rest).map fun (before, after) => (c :: before, after)

def parse? (s : List Char) : Option (List Nat) :=
  match splitAtGap s with
  | none => do
    let all ← groupsOf? s
    if all.length = 8 then some all else none
  | some (before, after) => do
    let front ← if before.contains '.' then none else groupsOf? before
    let back ← groupsOf? after
    if front.length + back.length ≤ 7 then
      some (front ++ List.replicate (8 - front.length - back.length) 0 ++ back)
    else none

/-- where the first longest run of zero groups begins, and its length -/
def longestGap : List Nat → Nat × Nat
  | [] => (0, 0)
  | g :: rest =>
    let (start, size) := longestGap rest
    let here := ((g :: rest).takeWhile (· == 0)).length
    if size ≤ here then (0, here) else (start + 1, size)

def hexText (n : Nat) : List Char := Nat.toDigits 16 n

def joinGroups (gs : List Nat) : List Char := [':'].intercalate (gs.map hexText)

/-- Leaves out the first longest run of at least two zero groups. -/
def text (gs : List Nat) : List Char :=
  let (start, size) := longestGap gs
  if size < 2 then joinGroups gs
  else joinGroups (gs.take start) ++ ':' :: ':' :: joinGroups (gs.drop (start + size))

end CaretSql.Url.Ipv6
