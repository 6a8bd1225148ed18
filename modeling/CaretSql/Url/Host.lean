import CaretSql.Character.Blank
import CaretSql.Text.Percent
import CaretSql.Url.Error
import CaretSql.Url.Ipv6
import CaretSql.Url.Punycode

/-! The host of an address. Most schemes take any text for one; the web's schemes read numbers
as IPv4 addresses and everything else as a domain. -/

namespace CaretSql.Url.Host

def bracketed (s : List Char) : Except Error (List Char) :=
  if s.getLast? = some ']' then
    match Ipv6.parse? (s.drop 1).dropLast with
    | some groups => .ok ('[' :: Ipv6.text groups ++ [']'])
    | none => .error .badIpv6
  else .error .badIpv6

def isControl (c : Char) : Bool := c.toNat < 0x20 || c.toNat = 0x7F

def isForbidden (c : Char) : Bool := "\x00\t\n\r #/:<>?@[\\]^|".toList.contains c

/-- Any text without the characters that structure an address. -/
def opaqueHost (s : List Char) : Except Error (List Char) :=
  if s.head? = some '[' then bracketed s
  else if s.any isForbidden then .error .badHostChar
  else .ok (Text.Percent.encode (fun c => !isControl c && c.toNat < 0x80) s)

/-- A number in the notation of IPv4 addresses: hexadecimal after `0x`, octal after `0`. -/
def number? (s : List Char) : Option Nat :=
  let digits (base : Nat) (s : List Char) : Option Nat :=
    s.foldlM (fun n c => do
      let d ← Text.hexValue? c
      if d < base then some (base * n + d) else none) 0
  match s with
  | [] => none
  | '0' :: 'x' :: rest | '0' :: 'X' :: rest => digits 16 rest
  | ['0'] => some 0
  | '0' :: rest => digits 8 rest
  | s => digits 10 s

def labels (s : List Char) : List (List Char) :=
  let parts := s.splitOn '.'
  if parts.getLast? = some [] ∧ 1 < parts.length then parts.dropLast else parts

def endsInNumber (s : List Char) : Bool :=
  match (labels s).getLast? with
  | none | some [] => false
  | some last => last.all Char.isDigit || (number? last).isSome

/-- Up to four numbers, the last of which fills the bytes that are left. -/
def ipv4 (s : List Char) : Except Error (List Char) :=
  match (labels s).mapM number? with
  | none => .error .badIpv4
  | some ns =>
    let front := ns.dropLast
    let last := ns.getLast?.getD 0
    if 4 < ns.length ∨ front.any (255 < ·) ∨ Nat.pow 256 (4 - front.length) ≤ last then
      .error .badIpv4
    else
      let fill := (List.range (4 - front.length)).reverse.map fun i => last / Nat.pow 256 i % 256
      .ok (['.'].intercalate ((front ++ fill).map (Nat.toDigits 10)))

/-- What a character is in a domain: ASCII in small letters also for wide forms, a point for other
full stops, nothing for marks that are not seen. Blanks and characters without a meaning of
their own cannot be in one. -/
def domainChar? (c : Char) : Option (List Char) :=
  let n := c.toNat
  if n < 0x80 then some [c.toLower]
  else if n ∈ [0xAD, 0x34F, 0x200B, 0x2060, 0xFEFF] ∨ (0xFE00 ≤ n ∧ n ≤ 0xFE0F) then some []
  else if n ∈ [0x3002, 0xFF0E, 0xFF61] then some ['.']
  else if 0xFF01 ≤ n ∧ n ≤ 0xFF5E then some [(Char.ofNat (n - 0xFEE0)).toLower]
  else if n < 0xA0 ∨ Character.isBlank c ∨ (0x200E ≤ n ∧ n ≤ 0x202E) ∨ (0xE000 ≤ n ∧ n < 0xF900)
      ∨ n = 0xFFFC ∨ n = 0xFFFD ∨ 0xFFFE ≤ n % 0x10000 ∨ (0xFDD0 ≤ n ∧ n ≤ 0xFDEF) ∨ 0xE0000 ≤ n then
    none
  else some [c]

/-- An encoded label must hold characters beyond ASCII, none of which stands for another. -/
def isLabel (s : List Char) : Bool :=
  if "xn--".toList.isPrefixOf s then
    match Punycode.decode? (s.drop 4) with
    | none => false
    | some label => label.any (0x80 ≤ ·.toNat) && label.all fun c => domainChar? c == some [c]
  else true

def domain (s : List Char) : Except Error (List Char) :=
  match (Text.Percent.decode? s).bind fun decoded => decoded.mapM domainChar? with
  | none => .error .badDomain
  | some pieces =>
    let name := pieces.flatten
    if name.any (fun c => isControl c || c == '%' || isForbidden c) ∨ !(labels name).all isLabel then
      .error .badDomain
    else if name.isEmpty then .error .emptyHost
    else if endsInNumber name then ipv4 name
    else .ok name

def webHost (s : List Char) : Except Error (List Char) :=
  if s.head? = some '[' then bracketed s else domain s

end CaretSql.Url.Host
