import CaretSql.Proofs.Document.Edit
import CaretSql.Proofs.Editor.Act

/-! An editor keeps its places. Whatever is done to it, its caret and the ends of its selection are
places of the text that it has then, and so an insertion always finds its piece of the text. -/

namespace CaretSql.Editor

variable {e e' : Editor} {p : Position}

def after (e : Editor) (acts : List Act) : Editor := acts.foldl perform e

theorem after_append (e : Editor) (first second : List Act) :
    e.after (first ++ second) = (e.after first).after second := List.foldl_append

/-- The caret and the ends of a selection are places of the text, and a selection ends at the
caret. -/
structure Placed (e : Editor) : Prop where
  caret : e.document.IsPlace e.caret
  selection : ∀ r ∈ e.selection,
    e.document.IsPlace r.start ∧ e.document.IsPlace r.stop ∧ r.stop = e.caret

theorem placed_new (text : List Char) : Placed { text } where
  caret := Document.isPlace_origin _
  selection := by nofun

/-- The second editor has the text, the caret and the selection of the first. -/
structure Alike (e e' : Editor) : Prop where
  text : e'.text = e.text
  caret : e'.caret = e.caret
  selection : e'.selection = e.selection

theorem Alike.trans {e'' : Editor} (h : Alike e e') (h' : Alike e' e'') : Alike e e'' :=
  ⟨h'.text.trans h.text, h'.caret.trans h.caret, h'.selection.trans h.selection⟩

theorem Alike.document (h : Alike e e') : e'.document = e.document := congrArg Document.mk h.text

theorem alike_registerAction (a : EditorAction) (e : Editor) : Alike e (e.registerAction a) := by
  unfold registerAction
  split <;> exact ⟨rfl, rfl, rfl⟩

theorem Placed.of_alike (h : e.Placed) (halike : Alike e e') : e'.Placed where
  caret := by
    rw [halike.document, halike.caret]
    exact h.caret
  selection := by
    rw [halike.document, halike.caret, halike.selection]
    exact h.selection

theorem placed_moveCaret (p : Position) (e : Editor) : (e.moveCaret p).Placed where
  caret := e.document.isPlace_clamp p
  selection := by nofun

theorem placed_select (r : TextRange) (e : Editor) : (e.select r).Placed where
  caret := e.document.isPlace_clamp r.stop
  selection := by
    rintro _ ⟨⟩
    exact ⟨e.document.isPlace_clamp r.start, e.document.isPlace_clamp r.stop, rfl⟩

theorem placed_insert (s : List Char) (e : Editor) : (e.insert s).Placed where
  caret := Document.isPlace_positionOf _ _
  selection := by nofun

theorem placed_setText (s : List Char) (e : Editor) : (e.setText s).Placed where
  caret := Document.isPlace_clamp _ _
  selection := by nofun

theorem Placed.append (h : e.Placed) (s : List Char) : (e.append s).Placed where
  caret := h.caret.append s
  selection := by
    intro r hr
    obtain ⟨hstart, hstop, hcaret⟩ := h.selection r hr
    exact ⟨hstart.append s, hstop.append s, hcaret⟩

theorem Placed.find (h : e.Placed) (needle : List Char) : (e.find needle).2.Placed := by
  unfold Editor.find
  split
  · exact h
  · split
    · exact h
    · exact placed_select _ e

theorem Placed.loadPreferences (h : e.Placed) : e.loadPreferences.Placed := by
  unfold Editor.loadPreferences
  split
  · exact h
  · exact placed_moveCaret _ _

theorem Placed.perform (h : e.Placed) (act : Act) : (e.perform act).Placed := by
  cases act with
  | moveCaret p => exact placed_moveCaret p e
  | select r => exact placed_select r e
  | insert s => exact placed_insert s e
  | append s => exact h.append s
  | setText s => exact placed_setText s e
  | find needle => exact h.find needle
  | registerAction a => exact h.of_alike (alike_registerAction a e)
  | loadPreferences => exact h.loadPreferences
  | addMarker | clearMarkers | scrollToRow | focus | savePreferences =>
    exact h.of_alike ⟨rfl, rfl, rfl⟩

theorem Placed.after (h : e.Placed) (acts : List Act) : (e.after acts).Placed := by
  induction acts generalizing e with
  | nil => exact h
  | cons act acts ih => exact ih (h.perform act)

/-- what an insertion replaces: the selection, or else nothing at the caret -/
def replaced (e : Editor) : TextRange := e.selection.getD (.emptyAt e.caret)

theorem Placed.isPlace_replaced (h : e.Placed) :
    e.document.IsPlace e.replaced.start ∧ e.document.IsPlace e.replaced.stop := by
  unfold replaced
  cases hs : e.selection with
  | none => exact ⟨h.caret, h.caret⟩
  | some r =>
    obtain ⟨hstart, hstop, -⟩ := h.selection r hs
    exact ⟨hstart, hstop⟩

theorem target_eq (e : Editor) :
    e.target = (e.document.offsetOf e.replaced.normalized.start,
      e.document.offsetOf e.replaced.normalized.stop) := by
  unfold target replaced
  cases e.selection with
  | none =>
    have hempty : (TextRange.emptyAt e.caret).normalized = .emptyAt e.caret :=
      if_neg (Position.lt_irrefl _)
    rw [Option.getD_none, hempty]
    rfl
  | some r => rfl

/-- In whichever direction the selection was made, an insertion replaces what is between its ends. -/
theorem Placed.target_eq (h : e.Placed) :
    e.target =
      (min (e.document.offsetOf e.replaced.start) (e.document.offsetOf e.replaced.stop),
        max (e.document.offsetOf e.replaced.start) (e.document.offsetOf e.replaced.stop)) := by
  obtain ⟨hstart, hstop⟩ := h.isPlace_replaced
  obtain ⟨hmin, hmax⟩ := Document.offsetOf_normalized hstart hstop
  rw [Editor.target_eq, hmin, hmax]

/-- a splice that is refused unless its ends are in order and in the text -/
def splice? (text : List Char) (start stop : Nat) (s : List Char) : Option (List Char) :=
  if start ≤ stop ∧ stop ≤ text.length then some (text.take start ++ s ++ text.drop stop) else none

/-- the insertion, if its splice is not refused -/
def insert? (s : List Char) (e : Editor) : Option Editor :=
  (splice? e.text e.target.1 e.target.2 s).map fun text =>
    { e with
      text, selection := none, caret := Document.positionOf ⟨text⟩ (e.target.1 + s.length) }

theorem Placed.target_inText (h : e.Placed) :
    e.target.1 ≤ e.target.2 ∧ e.target.2 ≤ e.text.length := by
  have hstart := e.document.offsetOf_le_length e.replaced.start
  have hstop := e.document.offsetOf_le_length e.replaced.stop
  rw [h.target_eq]
  constructor
  · dsimp only
    omega
  · exact Nat.max_le.mpr ⟨hstart, hstop⟩

theorem Placed.insert?_eq (h : e.Placed) (s : List Char) : e.insert? s = some (e.insert s) := by
  rw [insert?, splice?, if_pos h.target_inText]
  rfl

theorem text_insert (e : Editor) (s : List Char) :
    (e.insert s).text = e.text.take e.target.1 ++ s ++ e.text.drop e.target.2 := rfl

theorem Placed.offsetOf_caret_insert (h : e.Placed) (s : List Char) :
    (e.insert s).document.offsetOf (e.insert s).caret = e.target.1 + s.length := by
  apply Document.offsetOf_positionOf
  obtain ⟨hle, hlen⟩ := h.target_inText
  change e.target.1 + s.length ≤ (e.text.take e.target.1 ++ s ++ e.text.drop e.target.2).length
  rw [List.length_append, List.length_append, List.length_take]
  omega

/-- Without a selection an insertion parts the text at the caret. -/
theorem document_insert (h : e.selection = none) (s : List Char) :
    (e.insert s).document = ⟨e.text.take (e.document.offsetOf e.caret) ++
      (s ++ e.text.drop (e.document.offsetOf e.caret))⟩ := by
  rw [document, text_insert, target, h, List.append_assoc]

theorem document_parted (e : Editor) (o : Nat) : e.document = ⟨e.text.take o ++ e.text.drop o⟩ := by
  rw [List.take_append_drop]
  rfl

theorem isPlace_insert_of_le (hselection : e.selection = none) (h : e.document.IsPlace p)
    (hle : e.document.offsetOf p ≤ e.document.offsetOf e.caret) (s : List Char) :
    (e.insert s).document.IsPlace p ∧
      (e.insert s).document.offsetOf p = e.document.offsetOf p := by
  have hcaret : e.document.offsetOf e.caret ≤ e.text.length := e.document.offsetOf_le_length e.caret
  rw [document_insert hselection]
  generalize e.document.offsetOf e.caret = o at hle hcaret
  rw [e.document_parted o] at h hle ⊢
  apply h.of_prefix
  rw [List.length_take]
  omega

theorem isPlace_insert_of_not_mem (hselection : e.selection = none) (h : e.document.IsPlace p)
    {s : List Char} (hs : '\n' ∉ s) : (e.insert s).document.IsPlace p := by
  rw [document_insert hselection, ← List.append_assoc]
  rw [e.document_parted (e.document.offsetOf e.caret)] at h
  exact h.insert hs

/-- From any text on and through all that is done to it, the caret and the selection of an editor
are places of its text; and an insertion replaces just what is selected, or nothing at the caret,
and leaves the caret behind the new text and nothing selected. -/
theorem editor_keeps_places (text : List Char) (acts : List Act) :
    let e := ({ text } : Editor).after acts
    e.Placed ∧ ∀ s, ∃ start stop,
      start = min (e.document.offsetOf e.replaced.start) (e.document.offsetOf e.replaced.stop) ∧
      stop = max (e.document.offsetOf e.replaced.start) (e.document.offsetOf e.replaced.stop) ∧
      start ≤ stop ∧ stop ≤ e.text.length ∧
      e.insert? s = some (e.insert s) ∧
      (e.insert s).text = e.text.take start ++ s ++ e.text.drop stop ∧
      (e.insert s).document.offsetOf (e.insert s).caret = start + s.length ∧
      (e.insert s).selection = none := by
  intro e
  have h : e.Placed := (placed_new text).after acts
  refine ⟨h, fun s => ⟨e.target.1, e.target.2, ?_, ?_, h.target_inText.1, h.target_inText.2,
    h.insert?_eq s, e.text_insert s, h.offsetOf_caret_insert s, rfl⟩⟩
  · rw [h.target_eq]
  · rw [h.target_eq]

/-- A selection made backwards over a newline. -/
example :
    let e := (({ text := ['a', 'b', '\n', 'c'] } : Editor).select ⟨⟨2, 1⟩, ⟨1, 1⟩⟩).insert ['x', 'y']
    (e.text, e.caret) = (['a', 'x', 'y'], ⟨1, 3⟩) := by
  decide +kernel

end CaretSql.Editor
