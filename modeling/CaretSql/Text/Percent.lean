import CaretSql.Text.Utf8

/-! Percent encoding: a byte as a percent sign and two hexadecimal digits. -/

namespace CaretSql.Text.Percent

def encodeByte (b : UInt8) : List Char := ['%', hexDigit (b.toNat / 16), hexDigit (b.toNat % 16)]

def encodeChar (c : Char) : List Char := (String.utf8EncodeChar c).flatMap encodeByte

def encode (keep : Char → Bool) (s : List Char) : List Char :=
  s.flatMap fun c => if keep c then [c] else encodeChar c

/-- Percent signs without two digits after them stand for themselves. -/
def decodeBytes : List Char → List UInt8
  | '%' :: a :: b :: rest =>
    match hexValue? a, hexValue? b with
    | some high, some low => UInt8.ofNat (16 * high + low) :: decodeBytes rest
    | _, _ => String.utf8EncodeChar '%' ++ decodeBytes (a :: b :: rest)
  | c :: rest => String.utf8EncodeChar c ++ decodeBytes rest
  | [] => []

def decode? (s : List Char) : Option (List Char) := ofUtf8? (decodeBytes s)

end CaretSql.Text.Percent
