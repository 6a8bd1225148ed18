import CaretSql.Token

/-! The grammar of tokens: which token may stand between the text behind it and the text after it.
A closed token says how it ends; one that is left open takes the text to its end. The grammar is
about texts only, so it can be compared with any reader of them. -/

namespace CaretSql.Token

open Lexer

/-- The text behind, nearest character first, does not end within an identifier. -/
def Fresh (behind : List Char) : Prop := ∀ c ∈ behind.head?, isIdentifierChar c = false

/-- The text behind ends in an E that no identifier character precedes. -/
def EscapeMark (behind : List Char) : Prop :=
  ∃ e more, behind = e :: more ∧ (e = 'E' ∨ e = 'e') ∧ Fresh more

/-- A dollar sign that no identifier character precedes opens `$name$`, unless a digit begins the
name. -/
structure OpensTag (behind tag : List Char) : Prop where
  name : ∃ name, tag = '$' :: (name ++ ['$']) ∧ (∀ c ∈ name, isTagChar c = true) ∧
    ∀ c ∈ name.head?, c.isDigit = false
  fresh : Fresh behind

inductive PlainBody : List Char → Prop
  | nil : PlainBody []
  | other {c : Char} {s : List Char} (hc : c ≠ '\'') (h : PlainBody s) : PlainBody (c :: s)
  | doubled {s : List Char} (h : PlainBody s) : PlainBody ('\'' :: '\'' :: s)

inductive EscapeBody : List Char → Prop
  | nil : EscapeBody []
  | other {c : Char} {s : List Char} (hc : c ≠ '\'') (hb : c ≠ '\\') (h : EscapeBody s) :
      EscapeBody (c :: s)
  | doubled {s : List Char} (h : EscapeBody s) : EscapeBody ('\'' :: '\'' :: s)
  | escaped {s : List Char} (c : Char) (h : EscapeBody s) : EscapeBody ('\\' :: c :: s)

/-- what follows the opening of a block comment, its end included -/
inductive BlockBody : List Char → Prop
  | close : BlockBody ['*', '/']
  | other {c : Char} {s : List Char} (hopen : ¬ ['/', '*'] <+: c :: s)
      (hclose : ¬ ['*', '/'] <+: c :: s) (h : BlockBody s) : BlockBody (c :: s)
  | nested {s t : List Char} (hs : BlockBody s) (ht : BlockBody t) :
      BlockBody ('/' :: '*' :: (s ++ t))

/-- The character opens no longer token. -/
structure Single (behind : List Char) (c : Char) (rest : List Char) : Prop where
  quote : c ≠ '\''
  doubleQuote : c ≠ '"'
  dollar : c = '$' → ∀ tag, OpensTag behind tag → ¬ tag <+: c :: rest
  line : c = '-' → rest.head? ≠ some '-'
  block : c = '/' → rest.head? ≠ some '*'

/-- The token may stand between the text behind it, nearest character first, and the text after
it. -/
inductive Reads (behind : List Char) : Token → List Char → Prop
  | plain {body rest : List Char} (hmark : ¬ EscapeMark behind) (hbody : PlainBody body)
      (hrest : rest.head? ≠ some '\'') :
      Reads behind ⟨.plainLiteral, '\'' :: (body ++ ['\''])⟩ rest
  | plainOpen {body : List Char} (hmark : ¬ EscapeMark behind) (hbody : PlainBody body) :
      Reads behind ⟨.plainLiteral, '\'' :: body⟩ []
  | escape {body rest : List Char} (hmark : EscapeMark behind) (hbody : EscapeBody body)
      (hrest : rest.head? ≠ some '\'') :
      Reads behind ⟨.escapeLiteral, '\'' :: (body ++ ['\''])⟩ rest
  | escapeOpen {body : List Char} (hmark : EscapeMark behind) (hbody : EscapeBody body) :
      Reads behind ⟨.escapeLiteral, '\'' :: body⟩ []
  /-- the backslash has no character to take along -/
  | escapeCut {body : List Char} (hmark : EscapeMark behind) (hbody : EscapeBody body) :
      Reads behind ⟨.escapeLiteral, '\'' :: (body ++ ['\\'])⟩ []
  | quoted {body rest : List Char} (hbody : '"' ∉ body) :
      Reads behind ⟨.quotedIdentifier, '"' :: (body ++ ['"'])⟩ rest
  | quotedOpen {body : List Char} (hbody : '"' ∉ body) :
      Reads behind ⟨.quotedIdentifier, '"' :: body⟩ []
  /-- the second tag is the first that follows -/
  | dollar {tag body rest : List Char} (htag : OpensTag behind tag)
      (hfirst : ∀ n < body.length, ¬ tag <+: (body ++ tag).drop n) :
      Reads behind ⟨.dollarLiteral, tag ++ (body ++ tag)⟩ rest
  | dollarOpen {tag body : List Char} (htag : OpensTag behind tag) (hnone : ¬ tag <:+: body) :
      Reads behind ⟨.dollarLiteral, tag ++ body⟩ []
  | line {body rest : List Char} (hbody : '\n' ∉ body)
      (hrest : rest = [] ∨ rest.head? = some '\n') :
      Reads behind ⟨.lineComment, '-' :: '-' :: body⟩ rest
  | block {body rest : List Char} (hbody : BlockBody body) :
      Reads behind ⟨.blockComment, '/' :: '*' :: body⟩ rest
  | blockOpen {body : List Char} (hnone : ∀ s, s <+: body → ¬ BlockBody s) :
      Reads behind ⟨.blockComment, '/' :: '*' :: body⟩ []
  | character {c : Char} {rest : List Char} (h : Single behind c rest) :
      Reads behind ⟨.character, [c]⟩ rest

/-- The text, which continues the text behind it, falls into these tokens. -/
inductive Splits : List Char → List Char → List Token → Prop
  | nil {behind : List Char} : Splits behind [] []
  | cons {behind rest : List Char} {t : Token} {more : List Token} (ht : Reads behind t rest)
      (h : Splits (t.text.reverse ++ behind) rest more) :
      Splits behind (t.text ++ rest) (t :: more)

end CaretSql.Token
