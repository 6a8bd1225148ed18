import CaretSql.Text.Utf8
import CaretSql.Toml.Value

/-! Blanks, comments, line ends and the four kinds of quoted text. -/

namespace CaretSql.Toml

def isSpace (c : Char) : Bool := c == ' ' || c == '\t'

def skipSpaces (s : List Char) : List Char := s.dropWhile isSpace

/-- what may stand in a comment or a literal text -/
def isPlain (c : Char) : Bool := c == '\t' || (0x20 ≤ c.toNat && c.toNat != 0x7F)

def newline? : List Char → Option (List Char)
  | '\n' :: rest => some rest
  | '\r' :: '\n' :: rest => some rest
  | _ => none

def lineEnd? (s : List Char) : Option (List Char) := if s.isEmpty then some [] else newline? s

def skipComment (s : List Char) : List Char :=
  match s with
  | '#' :: rest => rest.dropWhile isPlain
  | s => s

/-- what may follow a header or an entry on its line -/
def trailing? (s : List Char) : Option (List Char) := lineEnd? (skipComment (skipSpaces s))

/-- Spaces, line ends and comments that end in a line end; `fuel` bounds their number. -/
def skipBlank : Nat → List Char → List Char
  | 0, s => s
  | fuel + 1, s =>
    let s := skipSpaces s
    match newline? (skipComment s) with
    | some rest => skipBlank fuel rest
    | none => s

def codePoint? (digits : Nat) (s : List Char) : Option (Char × List Char) := do
  let word := s.take digits
  if word.length < digits then none
  let n ← word.foldlM (fun n c => (Text.hexValue? c).map (16 * n + ·)) 0
  if n.isValidChar then some (Char.ofNat n, s.drop digits) else none

def escape? : List Char → Option (Char × List Char)
  | 'b' :: rest => some ('\x08', rest)
  | 't' :: rest => some ('\t', rest)
  | 'n' :: rest => some ('\n', rest)
  | 'f' :: rest => some ('\x0c', rest)
  | 'r' :: rest => some ('\r', rest)
  | '"' :: rest => some ('"', rest)
  | '\\' :: rest => some ('\\', rest)
  | 'u' :: rest => codePoint? 4 rest
  | 'U' :: rest => codePoint? 8 rest
  | _ => none

def skipLines : List Char → List Char
  | '\r' :: '\n' :: rest => skipLines rest
  | c :: rest => if isSpace c || c == '\n' then skipLines rest else c :: rest
  | [] => []

/-- Drops the blank lines that a backslash at the end of a line joins. -/
def joinLines? (s : List Char) : Option (List Char) := (newline? (skipSpaces s)).map skipLines

structure Quoting where
  quote : Char
  escapes : Bool
  multiline : Bool

/-- Reads a quoted text after its opening quotes. In a text of several lines one or two quotes
stand for themselves, also right before the closing three. -/
def quoted (q : Quoting) : Nat → Reader (List Char)
  | 0, _ => none
  | fuel + 1, s =>
    match s with
    | [] => none
    | c :: rest =>
      if c = q.quote then
        if !q.multiline then some ([], rest)
        else
          let run := (s.takeWhile (· == c)).length
          let after := s.drop run
          if run < 3 then
            (quoted q fuel after).map fun (text, rest) => (List.replicate run c ++ text, rest)
          else if run ≤ 5 then some (List.replicate (run - 3) c, after)
          else none
      else if c = '\\' ∧ q.escapes then
        match escape? rest with
        | some (c, rest) => (quoted q fuel rest).map fun (text, rest) => (c :: text, rest)
        | none => if q.multiline then (joinLines? rest).bind (quoted q fuel) else none
      else if isPlain c then (quoted q fuel rest).map fun (text, rest) => (c :: text, rest)
      else match newline? s with
        | some rest =>
          if q.multiline then (quoted q fuel rest).map fun (text, rest) => ('\n' :: text, rest)
          else none
        | none => none

/-- A quoted text of any kind. A line end right after three opening quotes is dropped. -/
def quotedText? (multiline : Bool) (s : List Char) : Option (String × List Char) := do
  let quote ← s.head?
  if quote ≠ '"' ∧ quote ≠ '\'' then none
  let q : Quoting := ⟨quote, quote = '"', false⟩
  let (text, rest) ←
    if multiline ∧ [quote, quote, quote].isPrefixOf s then
      let body := s.drop 3
      quoted { q with multiline := true } (s.length + 1) ((newline? body).getD body)
    else quoted q (s.length + 1) (s.drop 1)
  return (String.ofList text, rest)

end CaretSql.Toml
