import CaretSql.Document
import CaretSql.Lexemes
import CaretSql.Character.Blank

/-! The statement that a run sends. A selection runs as it stands. A caret runs the statement it
stands in: statements lie between delimiters, and one counts only if it holds more than blanks
and comments. -/

namespace CaretSql

structure Request where
  query : List Char
  row : Nat
  column : Nat
deriving DecidableEq, Repr

namespace Request

def origin (r : Request) : Position := ⟨r.row, r.column⟩

def ofSlice (d : Document) (start stop : Nat) : Request :=
  let origin := d.positionOf start
  ⟨d.slice start stop, origin.row, origin.column⟩

/-- What a caret anywhere in this piece of the text would run: the piece without the blanks
around it, if it has a character that is neither blank nor in a comment. -/
def ofRegion? (d : Document) (lexemes : Lexemes) (start stop : Nat) : Option Request :=
  let body := d.slice start stop
  if body.zipIdx.any fun (c, i) => !Character.isBlank c && !lexemes.inComment (start + i) then
    let lead := (body.takeWhile Character.isBlank).length
    let trail := (body.reverse.takeWhile Character.isBlank).length
    some (ofSlice d (start + lead) (stop - trail))
  else none

/-- What a caret that stands among blanks and comments at the head of a region falls back on: the
region before, if that one was closed on the caret's line. -/
def ofRegionBefore? (d : Document) (lexemes : Lexemes) (caret start : Nat)
    (before : Option (Nat × Nat)) : Option Request :=
  if (d.slice start caret).contains '\n' then none
  else before.bind fun (start, stop) => ofRegion? d lexemes start stop

/-- Goes through the regions of the text from the one that begins at `start`, whose ends are the
remaining delimiters and then the end of the text. A caret right after a delimiter still belongs
to the statement that it closes. -/
def underCaret (d : Document) (lexemes : Lexemes) (caret : Nat) :
    Option (Nat × Nat) → Nat → List Nat → Option Request
  | before, start, [] =>
    if caret ≤ d.length then
      (ofRegion? d lexemes start d.length).or (ofRegionBefore? d lexemes caret start before)
    else none
  | before, start, stop :: more =>
    if caret ≤ stop then
      (ofRegion? d lexemes start stop).or (ofRegionBefore? d lexemes caret start before)
    else
      let onward := underCaret d lexemes caret (some (start, stop)) (stop + 1) more
      if caret = stop + 1 then (ofRegion? d lexemes start stop).or onward else onward

def ofCaret? (d : Document) (p : Position) : Option Request :=
  let lexemes := Lexemes.ofText d.chars
  underCaret d lexemes (d.offsetOf p) none 0 lexemes.delimiters

/-- A selection that lies past the end of its line or of the text holds nothing and is a caret. -/
def ofSelection? (d : Document) (r : TextRange) : Option Request :=
  let start := d.offsetOf r.start
  let stop := d.offsetOf r.stop
  if start = stop then ofCaret? d r.start else some (ofSlice d start stop)

/-- what a run sends from this anchor, if there is anything to run -/
def extract? (d : Document) (anchor : Anchor) : Option Request :=
  match anchor.normalized with
  | .selection r => ofSelection? d r
  | .caret p => ofCaret? d p

/-- what a run sends from an anchor that may lie anywhere -/
def checkedExtract (d : Document) (anchor : Anchor) : Except Overflow (Option Request) :=
  d.checked anchor.places (extract? d anchor)

end Request

end CaretSql
