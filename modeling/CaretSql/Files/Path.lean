import CaretSql.Text.Utf8

/-! Names of files. A path is a text of names with slashes between them; a dot stands for the
directory itself and two dots for the one above. -/

namespace CaretSql.Files

abbrev Path := List Char

inductive Error
  | notFound
  | alreadyThere
  | notDirectory
  | isDirectory
  | nameTooLong
  | nulInName
  | notUtf8
  | other (text : String)
deriving DecidableEq, Repr

def Error.text : Error → String
  | .notFound => "No such file or directory (os error 2)"
  | .alreadyThere => "File exists (os error 17)"
  | .notDirectory => "Not a directory (os error 20)"
  | .isDirectory => "Is a directory (os error 21)"
  | .nameTooLong => "File name too long (os error 36)"
  | .nulInName => "file name contained an unexpected NUL byte"
  | .notUtf8 => "stream did not contain valid UTF-8"
  | .other text => text

/-- The text of a file, whose bytes have to be UTF-8. -/
def textOf (content : Except Error (List UInt8)) : Except Error (List Char) := do
  match Text.ofUtf8? (← content) with
  | some s => return s
  | none => throw .notUtf8

namespace Path

def isAbsolute (p : Path) : Bool := p.head? == some '/'

def names (p : Path) : List Path := (p.splitOn '/').filter (!·.isEmpty)

def endsInSlash (p : Path) : Bool := p.getLast? == some '/'

def join (directory p : Path) : Path :=
  if p.isAbsolute ∨ directory.isEmpty then p
  else if directory.endsInSlash then directory ++ p else directory ++ '/' :: p

/-- Does this piece between slashes, which is the one of this index, name nothing? A dot at the
very start does. -/
def isIdle (absolute : Bool) (piece : Path × Nat) : Bool :=
  piece.1.isEmpty || (piece.1 == ['.'] && (absolute || 0 < piece.2))

/-- The path without its last name and the slashes and dots around it. -/
def parent? (p : Path) : Option Path :=
  let idle := isIdle p.isAbsolute
  match ((p.splitOn '/').zipIdx.reverse).dropWhile idle with
  | [] => none
  | _ :: before =>
    let kept := (before.dropWhile idle).reverse.map Prod.fst
    if kept.isEmpty then some (if p.isAbsolute then ['/'] else [])
    else some (['/'].intercalate kept)

end Path

end CaretSql.Files
