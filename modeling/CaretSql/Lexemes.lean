import CaretSql.Character.Alphanumeric

/-! Where the statements of a SQL text end and where its comments lie. One scan from left to right
finds both: it keeps track of the literal, the quoted identifier or the comment it is inside of,
and what looks like a delimiter or a comment inside of one is passed over. -/

namespace CaretSql

structure Lexemes where
  delimiters : List Nat := []
  comments : List (Nat × Nat) := []
deriving DecidableEq, Repr

namespace Lexemes

instance : Append Lexemes :=
  ⟨fun x y => ⟨x.delimiters ++ y.delimiters, x.comments ++ y.comments⟩⟩

def inComment (x : Lexemes) (offset : Nat) : Bool :=
  x.comments.any fun (start, stop) => start ≤ offset && offset < stop

end Lexemes

namespace Lexer

def isIdentifierChar (c : Char) : Bool := Character.isAlphanumeric c || c == '_' || c == '$'

def isTagChar (c : Char) : Bool := Character.isAlphanumeric c || c == '_'

/-- Does the text behind, nearest character first, end in an E that is a word of its own? -/
def endsInEscapeMark : List Char → Bool
  | [] => false
  | e :: behind => (e == 'E' || e == 'e') && !behind.head?.any isIdentifierChar

/-- The tag that a dollar sign opens between `behind` and `rest`, dollar signs included: neither
a parameter such as `$1` nor a dollar sign inside an identifier opens one. -/
def dollarTag? (behind rest : List Char) : Option (List Char) :=
  let name := rest.takeWhile isTagChar
  if behind.head?.any isIdentifierChar || rest.head?.any Char.isDigit then none
  else if (rest.drop name.length).head? = some '$' then some ('$' :: name ++ ['$'])
  else none

/-- What a scan is inside of. Comments remember where they began, and block comments how many
others are open around the innermost one. -/
inductive Mode
  | normal
  /-- in single quotes; `escapes`: a backslash takes the next character along -/
  | literal (escapes : Bool)
  | identifier
  | dollar (tag : List Char)
  | lineComment (start : Nat)
  | blockComment (start depth : Nat)
deriving DecidableEq, Repr

/-- What a scan does at a character. -/
structure Step where
  mode : Mode
  /-- how many characters after this one are passed over -/
  skip : Nat := 0
  found : Lexemes := {}
deriving DecidableEq, Repr

/-- What a scan between the text behind it, nearest character first, and the text after it does
at the character `c`. -/
def advance (behind : List Char) (offset : Nat) (c : Char) (rest : List Char) : Mode → Step
  | .normal =>
    match c with
    | '\'' => { mode := .literal (endsInEscapeMark behind) }
    | '"' => { mode := .identifier }
    | '$' =>
      match dollarTag? behind rest with
      | some tag => { mode := .dollar tag, skip := tag.length - 1 }
      | none => { mode := .normal }
    | '-' =>
      if rest.head? = some '-' then { mode := .lineComment offset, skip := 1 }
      else { mode := .normal }
    | '/' =>
      if rest.head? = some '*' then { mode := .blockComment offset 0, skip := 1 }
      else { mode := .normal }
    | ';' => { mode := .normal, found := { delimiters := [offset] } }
    | _ => { mode := .normal }
  | .literal escapes =>
    if escapes ∧ c = '\\' then { mode := .literal escapes, skip := 1 }
    else if c = '\'' then
      if rest.head? = some '\'' then { mode := .literal escapes, skip := 1 }
      else { mode := .normal }
    else { mode := .literal escapes }
  | .identifier => if c = '"' then { mode := .normal } else { mode := .identifier }
  | .dollar tag =>
    if tag.isPrefixOf (c :: rest) then { mode := .normal, skip := tag.length - 1 }
    else { mode := .dollar tag }
  | .lineComment start =>
    if c = '\n' then { mode := .normal, found := { comments := [(start, offset)] } }
    else { mode := .lineComment start }
  | .blockComment start depth =>
    if c = '/' ∧ rest.head? = some '*' then { mode := .blockComment start (depth + 1), skip := 1 }
    else if c = '*' ∧ rest.head? = some '/' then
      match depth with
      | 0 => { mode := .normal, skip := 1, found := { comments := [(start, offset + 2)] } }
      | depth + 1 => { mode := .blockComment start depth, skip := 1 }
    else { mode := .blockComment start depth }

/-- A comment that is still open where the text ends runs up to there. -/
def finish (offset : Nat) : Mode → Lexemes
  | .lineComment start | .blockComment start _ => { comments := [(start, offset)] }
  | _ => {}

/-- The rest of a scan that has come to `offset`: what it finds, and what it is inside of where the
text ends. -/
def run (mode : Mode) (behind : List Char) (offset : Nat) : List Char → Lexemes × Mode
  | [] => (finish offset mode, mode)
  | c :: rest =>
    let step := advance behind offset c rest mode
    let more := run step.mode ((c :: rest.take step.skip).reverse ++ behind)
      (offset + 1 + step.skip) (rest.drop step.skip)
    (step.found ++ more.1, more.2)
termination_by s => s.length
decreasing_by simp only [List.length_drop, List.length_cons]; omega

def scan (mode : Mode) (behind : List Char) (offset : Nat) (s : List Char) : Lexemes :=
  (run mode behind offset s).1

end Lexer

def Lexemes.ofText (s : List Char) : Lexemes := Lexer.scan .normal [] 0 s

end CaretSql
