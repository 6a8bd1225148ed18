/-! Places in a text and the ranges between them. Rows count from 1 and columns from 0, both in
characters; places are ordered by row, then by column. -/

namespace CaretSql

structure Position where
  row : Nat
  column : Nat
deriving DecidableEq, Repr, Inhabited

namespace Position

instance : LT Position := ⟨fun p q => p.row < q.row ∨ p.row = q.row ∧ p.column < q.column⟩

instance (p q : Position) : Decidable (p < q) := inferInstanceAs (Decidable (_ ∨ _))

def origin : Position := ⟨1, 0⟩

def text (p : Position) : String := toString p.row ++ ":" ++ toString p.column

theorem lt_iff {p q : Position} : p < q ↔ p.row < q.row ∨ p.row = q.row ∧ p.column < q.column :=
  Iff.rfl

theorem lt_irrefl (p : Position) : ¬ p < p := by simp [lt_iff]

theorem lt_asymm {p q : Position} (h : p < q) : ¬ q < p := by
  rw [lt_iff] at *; omega

end Position

/-- From `start` up to but not including `stop`. -/
structure TextRange where
  start : Position
  stop : Position
deriving DecidableEq, Repr, Inhabited

namespace TextRange

def emptyAt (p : Position) : TextRange := ⟨p, p⟩

def isEmpty (r : TextRange) : Bool := r.start = r.stop

def normalized (r : TextRange) : TextRange := if r.stop < r.start then ⟨r.stop, r.start⟩ else r

end TextRange

/-- What a run acts on. -/
inductive Anchor
  | caret (position : Position)
  | selection (range : TextRange)
deriving DecidableEq, Repr

namespace Anchor

/-- the places that a run looks up -/
def places : Anchor → List Position
  | .caret p => [p]
  | .selection r => [r.start, r.stop]

/-- Puts the ends of a selection in order; an empty selection is a caret. -/
def normalized : Anchor → Anchor
  | .selection r => if r.isEmpty then .caret r.start else .selection r.normalized
  | .caret p => .caret p

end Anchor

end CaretSql
