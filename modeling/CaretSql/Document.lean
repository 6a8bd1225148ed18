import CaretSql.Word
import CaretSql.Position

/-! A text addressed by offset and by position. Its lines are what stands between newlines, so a
text always has at least one; offsets and positions past the text mean its nearest place. -/

namespace CaretSql

def splitLines : List Char → List (List Char)
  | [] => [[]]
  | c :: rest =>
    if c = '\n' then [] :: splitLines rest
    else match splitLines rest with
      | [] => [[c]]
      | line :: lines => (c :: line) :: lines

theorem splitLines_ne_nil (s : List Char) : splitLines s ≠ [] := by
  cases s with
  | nil => simp [splitLines]
  | cons c rest => unfold splitLines; split <;> try split
                   all_goals simp

def linesLength (lines : List (List Char)) : Nat :=
  lines.foldr (fun line total => line.length + 1 + total) 0

structure Document where
  chars : List Char
deriving DecidableEq, Repr

namespace Document

def length (d : Document) : Nat := d.chars.length

def lines (d : Document) : List (List Char) := splitLines d.chars

def lineCount (d : Document) : Nat := d.lines.length

/-- the offset at which the line of this index begins, each line before it taking its width and
a newline -/
def lineStart (d : Document) (index : Nat) : Nat := linesLength (d.lines.take index)

/-- A row past the last line means the end of the text and a column past the end of its line the
end of that line. -/
def offsetOf (d : Document) (p : Position) : Nat :=
  match d.lines[p.row - 1]? with
  | none => d.length
  | some line =>
    let start := d.lineStart (p.row - 1)
    min (start + p.column) (start + line.length)

/-- The sum that `offsetOf` takes is a word. Within the line it is an offset of the text, and those
are words. -/
def Fits (d : Document) (p : Position) : Prop :=
  ∀ line ∈ d.lines[p.row - 1]?,
    p.column ≤ line.length ∨ d.lineStart (p.row - 1) + p.column < wordSize

instance (d : Document) (p : Position) : Decidable (d.Fits p) :=
  inferInstanceAs (Decidable (∀ line ∈ d.lines[p.row - 1]?, _))

/-- What is worked out from the offsets of these places. They may be any places at all; places that
come from a text in memory fit, and are looked up with `offsetOf` itself. -/
def checked {α : Type} (d : Document) (places : List Position) (a : α) : Except Overflow α :=
  if ∀ p ∈ places, d.Fits p then .ok a else .error ⟨⟩

def checkedOffset (d : Document) (p : Position) : Except Overflow Nat :=
  d.checked [p] (d.offsetOf p)

/-- An offset past the end means the end. -/
def positionOf (d : Document) (offset : Nat) : Position :=
  let behind := d.chars.take offset
  ⟨behind.count '\n' + 1, (behind.reverse.takeWhile (· != '\n')).length⟩

/-- the nearest place of the text -/
def clamp (d : Document) (p : Position) : Position := d.positionOf (d.offsetOf p)

def slice (d : Document) (start stop : Nat) : List Char := (d.chars.take stop).drop start

def textIn (d : Document) (r : TextRange) : List Char :=
  d.slice (d.offsetOf r.normalized.start) (d.offsetOf r.normalized.stop)

def checkedTextIn (d : Document) (r : TextRange) : Except Overflow (List Char) :=
  d.checked [r.start, r.stop] (d.textIn r)

/-- the content of a line without its newline; rows outside the text mean the nearest line -/
def lineRange (d : Document) (row : Nat) : TextRange :=
  let row := max 1 (min row d.lineCount)
  ⟨⟨row, 0⟩, ⟨row, ((d.lines[row - 1]?).getD []).length⟩⟩

theorem length_slice (d : Document) (start stop : Nat) :
    (d.slice start stop).length = min stop d.length - start := by
  simp [slice, length]

end Document

end CaretSql
