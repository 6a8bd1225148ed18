import CaretSql.Lexemes

/-! The tokens of a SQL text, as far as statement boundaries need them: literals, quoted
identifiers, comments, and single characters for all else. The tokens of a text are its pieces
from left to right, so joined they are the text again; a token left open runs to the end. -/

namespace CaretSql

inductive TokenKind
  /-- in single quotes; a doubled quote stays inside -/
  | plainLiteral
  /-- a single-quoted literal after a lone E, in which a backslash takes the next character along -/
  | escapeLiteral
  /-- in double quotes -/
  | quotedIdentifier
  /-- between two occurrences of a tag such as `$$` or `$body$` -/
  | dollarLiteral
  /-- from `--` up to but not including the newline -/
  | lineComment
  /-- between slash-star and star-slash, nesting -/
  | blockComment
  | character
deriving DecidableEq, Repr

structure Token where
  kind : TokenKind
  text : List Char
deriving DecidableEq, Repr

namespace Token

open Lexer

def delimiter : Token := ⟨.character, [';']⟩

def isComment (t : Token) : Bool := t.kind = .lineComment || t.kind = .blockComment

/-- what a plain literal takes after its opening quote -/
def plainTail : List Char → List Char
  | [] => []
  | '\'' :: '\'' :: rest => '\'' :: '\'' :: plainTail rest
  | '\'' :: _ => ['\'']
  | c :: rest => c :: plainTail rest

def escapeTail : List Char → List Char
  | [] => []
  | '\\' :: c :: rest => '\\' :: c :: escapeTail rest
  | '\'' :: '\'' :: rest => '\'' :: '\'' :: escapeTail rest
  | '\'' :: _ => ['\'']
  | c :: rest => c :: escapeTail rest

def quotedTail : List Char → List Char
  | [] => []
  | c :: rest => if c = '"' then ['"'] else c :: quotedTail rest

/-- what a dollar literal takes after its opening tag -/
def dollarTail (tag : List Char) : List Char → List Char
  | [] => []
  | c :: rest => if tag.isPrefixOf (c :: rest) then tag else c :: dollarTail tag rest

/-- what a block comment takes after its opening inside `depth` others -/
def blockTail : Nat → List Char → List Char
  | _, [] => []
  | depth, '/' :: '*' :: rest => '/' :: '*' :: blockTail (depth + 1) rest
  | 0, '*' :: '/' :: _ => ['*', '/']
  | depth + 1, '*' :: '/' :: rest => '*' :: '/' :: blockTail depth rest
  | depth, c :: rest => c :: blockTail depth rest

/-- the token that begins with `c`, between the text behind it, nearest character first, and the
text after it -/
def next (behind : List Char) (c : Char) (rest : List Char) : Token :=
  match c with
  | '\'' =>
    if endsInEscapeMark behind then ⟨.escapeLiteral, c :: escapeTail rest⟩
    else ⟨.plainLiteral, c :: plainTail rest⟩
  | '"' => ⟨.quotedIdentifier, c :: quotedTail rest⟩
  | '$' =>
    match dollarTag? behind rest with
    | some tag => ⟨.dollarLiteral, tag ++ dollarTail tag (rest.drop (tag.length - 1))⟩
    | none => ⟨.character, [c]⟩
  | '-' =>
    if rest.head? = some '-' then ⟨.lineComment, c :: rest.takeWhile (· != '\n')⟩
    else ⟨.character, [c]⟩
  | '/' =>
    if rest.head? = some '*' then ⟨.blockComment, c :: '*' :: blockTail 0 rest.tail⟩
    else ⟨.character, [c]⟩
  | _ => ⟨.character, [c]⟩

/-- the tokens of a text that continues the text behind it -/
def tokensFrom (behind : List Char) : List Char → List Token
  | [] => []
  | c :: rest =>
    let token := next behind c rest
    token :: tokensFrom (token.text.reverse ++ behind) (rest.drop (token.text.length - 1))
termination_by s => s.length
decreasing_by simp only [List.length_drop, List.length_cons]; omega

def tokens (s : List Char) : List Token := tokensFrom [] s

/-- the tokens with the offsets at which they begin -/
def place : Nat → List Token → List (Nat × Token)
  | _, [] => []
  | offset, t :: more => (offset, t) :: place (offset + t.text.length) more

end Token

/-- the lexemes that tokens show which begin at an offset -/
def Lexemes.ofTokens (offset : Nat) (ts : List Token) : Lexemes where
  delimiters := ((Token.place offset ts).filter (·.2 = .delimiter)).map (·.1)
  comments := ((Token.place offset ts).filter (·.2.isComment)).map fun (o, t) =>
    (o, o + t.text.length)

end CaretSql
