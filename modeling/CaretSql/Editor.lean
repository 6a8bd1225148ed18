import CaretSql.Document

/-! A plain-text editor: a text, a caret, perhaps a selection, markers, and what was asked of the
window around it. Preferences are the text and the caret, kept in memory. -/

namespace CaretSql

inductive EditorAction
  | execute
  | executeAt
  | focusGrid
deriving DecidableEq, Repr

namespace EditorAction

def all : List EditorAction := [.execute, .executeAt, .focusGrid]

def name : EditorAction → String
  | .execute => "execute"
  | .executeAt => "execute_at"
  | .focusGrid => "focus_grid"

def macKey : EditorAction → String
  | .execute => "F9"
  | .executeAt => "Command-Enter"
  | .focusGrid => "F2"

def winKey : EditorAction → String
  | .execute => "F9"
  | .executeAt => "Ctrl-Enter"
  | .focusGrid => "F2"

def togglesRun : EditorAction → Bool
  | .execute | .executeAt => true
  | .focusGrid => false

def ofName? (s : String) : Option EditorAction := all.find? (·.name == s)

end EditorAction

structure Preferences where
  text : List Char
  caret : Position
deriving DecidableEq, Repr

structure Editor where
  text : List Char
  caret : Position := .origin
  selection : Option TextRange := none
  markers : List TextRange := []
  actions : List EditorAction := []
  scrolledTo : Option Nat := none
  focused : Bool := false
  saved : Option Preferences := none
  saves : Nat := 0
deriving DecidableEq, Repr

namespace Editor

def document (e : Editor) : Document := ⟨e.text⟩

/-- the selection if it holds anything, else the caret -/
def anchor (e : Editor) : Anchor :=
  match e.selection with
  | some r => if r.isEmpty then .caret e.caret else .selection r
  | none => .caret e.caret

def moveCaret (p : Position) (e : Editor) : Editor :=
  { e with caret := e.document.clamp p, selection := none }

/-- The caret goes to the end of the selection. -/
def select (r : TextRange) (e : Editor) : Editor :=
  let r : TextRange := ⟨e.document.clamp r.start, e.document.clamp r.stop⟩
  { e with caret := r.stop, selection := some r }

def checkedMoveCaret (p : Position) (e : Editor) : Except Overflow Editor :=
  e.document.checked [p] (e.moveCaret p)

def checkedSelect (r : TextRange) (e : Editor) : Except Overflow Editor :=
  e.document.checked [r.start, r.stop] (e.select r)

def target (e : Editor) : Nat × Nat :=
  match e.selection with
  | some r => (e.document.offsetOf r.normalized.start, e.document.offsetOf r.normalized.stop)
  | none => (e.document.offsetOf e.caret, e.document.offsetOf e.caret)

/-- Replaces the selection, or inserts at the caret; the caret ends up after the new text. -/
def insert (s : List Char) (e : Editor) : Editor :=
  let (start, stop) := e.target
  let text := e.text.take start ++ s ++ e.text.drop stop
  { e with text, selection := none, caret := Document.positionOf ⟨text⟩ (start + s.length) }

def append (s : List Char) (e : Editor) : Editor := { e with text := e.text ++ s }

def setText (s : List Char) (e : Editor) : Editor :=
  { e with text := s, selection := none, markers := [], caret := Document.clamp ⟨s⟩ e.caret }

/-- The offset of the first occurrence of a needle that starts at the caret's offset `start` or
after it, or else of the first before it. -/
def occurrence? (needle text : List Char) (start : Nat) : Option Nat :=
  let starts := (List.range (text.length + 1)).filter fun i => needle.isPrefixOf (text.drop i)
  (starts.find? (start ≤ ·)).or starts.head?

/-- Selects the next occurrence of a text, going on from the start where the end is reached. -/
def find (needle : List Char) (e : Editor) : Option TextRange × Editor :=
  if needle.isEmpty then (none, e)
  else match occurrence? needle e.text (e.document.offsetOf e.caret) with
    | none => (none, e)
    | some hit =>
      let r : TextRange := ⟨e.document.positionOf hit, e.document.positionOf (hit + needle.length)⟩
      (some r, e.select r)

def addMarker (r : TextRange) (e : Editor) : Editor := { e with markers := e.markers ++ [r] }

def clearMarkers (e : Editor) : Editor := { e with markers := [] }

def scrollToRow (row : Nat) (e : Editor) : Editor := { e with scrolledTo := some row }

def focus (e : Editor) : Editor := { e with focused := true }

def registerAction (e : Editor) (a : EditorAction) : Editor :=
  if a ∈ e.actions then e else { e with actions := e.actions ++ [a] }

def savePreferences (e : Editor) : Editor :=
  { e with saved := some ⟨e.text, e.caret⟩, saves := e.saves + 1 }

/-- Without saved preferences nothing changes. -/
def loadPreferences (e : Editor) : Editor :=
  match e.saved with
  | none => e
  | some p => (e.setText p.text).moveCaret p.caret

end Editor

end CaretSql
