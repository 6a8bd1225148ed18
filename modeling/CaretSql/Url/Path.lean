import CaretSql.Text.Percent

/-! The path of an address. Dot segments move around in it, and what may not stand in a path is
percent-encoded. -/

namespace CaretSql.Url.Path

def isKept (c : Char) : Bool :=
  0x20 < c.toNat && c.toNat < 0x7F && !"\"<>`#?\x7b\x7d".toList.contains c

def plainDots : List Char → List Char
  | '%' :: '2' :: e :: rest =>
    if e = 'e' ∨ e = 'E' then '.' :: plainDots rest else '%' :: '2' :: plainDots (e :: rest)
  | c :: rest => c :: plainDots rest
  | [] => []

/-- Is this a letter with a colon or a bar, as at the head of some file paths? -/
def isDrive : List Char → Bool
  | [letter, mark] => letter.isAlpha && (mark == ':' || mark == '|')
  | _ => false

/-- Leaves the last segment of a path, given as its segments from the last one back. The root
cannot be left, nor can a drive. -/
def parent : List (List Char) → List (List Char)
  | [] => []
  | last :: more => if isDrive last then last :: more else more

/-- Walks along the segments of a path; what was passed is kept from the last one back. The path
ends in a slash after a dot segment. -/
def walk : List (List Char) → List (List Char) → List (List Char)
  | passed, [] => passed
  | passed, segment :: more =>
    let dots := plainDots segment
    let rest := if more.isEmpty then [[]] else []
    if dots = ['.', '.'] then walk (rest ++ parent passed) more
    else if dots = ['.'] then walk (rest ++ passed) more
    else walk (segment :: passed) more

/-- The text of the path with these segments after its first slash. -/
def resolve (segments : List (List Char)) : List Char :=
  (walk [] (segments.map (Text.Percent.encode isKept))).reverse.flatMap ('/' :: ·)

end CaretSql.Url.Path
