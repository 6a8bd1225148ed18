import CaretSql.Binary64.Shortest
import CaretSql.Json.Basic
import CaretSql.Text.Utf8

/-! JSON as text, with a line for each element and field. A floating-point number that is not finite
is written as null. -/

namespace CaretSql.Json

def escapeChar (c : Char) : List Char :=
  if c = '"' then ['\\', '"']
  else if c = '\\' then ['\\', '\\']
  else if c = '\n' then ['\\', 'n']
  else if c = '\r' then ['\\', 'r']
  else if c = '\t' then ['\\', 't']
  else if c = '\x08' then ['\\', 'b']
  else if c = '\x0c' then ['\\', 'f']
  else if c.toNat < 0x20 then
    ['\\', 'u', '0', '0', Text.hexDigit (c.toNat / 16), (Text.hexDigit (c.toNat % 16)).toLower]
  else [c]

def quote (s : String) : String := String.ofList ('"' :: s.toList.flatMap escapeChar ++ ['"'])

def scalar : Json → String
  | .null => "null"
  | .bool b => if b then "true" else "false"
  | .int i => toString i
  | .float x => if x.isFinite then x.jsonText else "null"
  | .string s => quote s
  | .array _ => "[]"
  | .object _ => "\x7b\x7d"

def line (depth : Nat) (s : String) : String :=
  "\n" ++ String.ofList (List.replicate (2 * depth) ' ') ++ s

/-- Lines between brackets; none at all if there is nothing between them. -/
def block (depth : Nat) (opening closing : String) (lines : List String) : String :=
  if lines.isEmpty then opening ++ closing
  else opening ++ ",".intercalate (lines.map (line (depth + 1))) ++ line depth closing

mutual

/-- with two blanks before a line for each bracket around it -/
def pretty (depth : Nat) : Json → String
  | .array items => block depth "[" "]" (prettyItems (depth + 1) items)
  | .object fields => block depth "\x7b" "\x7d" (prettyFields (depth + 1) fields)
  | j => scalar j

def prettyItems (depth : Nat) : List Json → List String
  | [] => []
  | j :: rest => pretty depth j :: prettyItems depth rest

def prettyFields (depth : Nat) : List (String × Json) → List String
  | [] => []
  | (name, j) :: rest => (quote name ++ ": " ++ pretty depth j) :: prettyFields depth rest

end

end CaretSql.Json
