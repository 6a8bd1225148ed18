import CaretSql.Request

/-! Where an engine's complaint about a statement lands in the text: engines give a flat offset
into the statement they received, the editor needs a place in the text and the piece under it. -/

namespace CaretSql

structure ErrorLocation where
  position : Position
  span : TextRange
deriving DecidableEq, Repr

namespace Request

/-- The place of an offset into the statement; offsets past its end mean its end. -/
def positionAt (r : Request) (offset : Nat) : Position :=
  let behind := r.query.take offset
  let rows := behind.count '\n'
  let columns := (behind.reverse.takeWhile (· != '\n')).length
  ⟨r.row + rows, if rows = 0 then r.column + columns else columns⟩

/-- the place in a statement that may claim to begin anywhere -/
def checkedPositionAt (r : Request) (offset : Nat) : Except Overflow Position :=
  let p := r.positionAt offset
  if p.row < wordSize ∧ p.column < wordSize then .ok p else .error ⟨⟩

end Request

namespace ErrorLocation

def isWordChar (c : Char) : Bool :=
  Character.isAlphanumeric c || c == '_' || c == '$' || c == '.'

/-- how far a quoted piece reaches past its opening quote; a doubled quote stays inside -/
def quotedWidth (quote : Char) : List Char → Nat
  | [] => 0
  | [_] => 1
  | c :: d :: rest =>
    if c = quote then if d = quote then quotedWidth quote rest + 2 else 1
    else quotedWidth quote (d :: rest) + 1

/-- the width of the piece to highlight at the head of a text: nothing at a blank or the end, a
word, a quoted piece, or one character -/
def width : List Char → Nat
  | [] => 0
  | c :: rest =>
    if Character.isBlank c then 0
    else if isWordChar c then (rest.takeWhile isWordChar).length + 1
    else if c = '\'' ∨ c = '"' then quotedWidth c rest + 1
    else 1

/-- The text may have changed since the statement was sent; the place is then the nearest one. -/
def locate (d : Document) (r : Request) (offset : Nat) : ErrorLocation :=
  let start := d.offsetOf (r.positionAt offset)
  let position := d.positionOf start
  ⟨position, ⟨position, d.positionOf (start + width (d.chars.drop start))⟩⟩

def checkedLocate (d : Document) (r : Request) (offset : Nat) : Except Overflow ErrorLocation := do
  d.checked [← r.checkedPositionAt offset] (locate d r offset)

end ErrorLocation

end CaretSql
