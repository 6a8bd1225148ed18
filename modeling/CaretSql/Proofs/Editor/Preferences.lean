import CaretSql.Proofs.Editor.Places

/-! The preferences of an editor. What is saved stays as it is until something is saved again, and
what an editor saves is loaded without being moved, for its caret is a place of its text. -/

namespace CaretSql.Editor

variable {e : Editor} {p : Preferences}

def preferences (e : Editor) : Preferences := ⟨e.text, e.caret⟩

/-- the editor with these preferences; nothing is selected or marked in it -/
def restored (e : Editor) (p : Preferences) : Editor :=
  { e with text := p.text, caret := p.caret, selection := none, markers := [] }

theorem saved_find (needle : List Char) (e : Editor) : (e.find needle).2.saved = e.saved := by
  unfold find
  split
  · rfl
  · split <;> rfl

theorem saved_registerAction (a : EditorAction) (e : Editor) :
    (e.registerAction a).saved = e.saved := by
  unfold registerAction
  split <;> rfl

theorem saved_loadPreferences (e : Editor) : e.loadPreferences.saved = e.saved := by
  unfold loadPreferences
  split <;> rfl

theorem saved_perform {act : Act} (h : act ≠ .savePreferences) :
    (e.perform act).saved = e.saved := by
  cases act with
  | find needle => exact saved_find needle e
  | registerAction a => exact saved_registerAction a e
  | loadPreferences => exact e.saved_loadPreferences
  | savePreferences => exact absurd rfl h
  | moveCaret | select | insert | append | setText | addMarker | clearMarkers | scrollToRow | focus =>
    rfl

theorem saved_after {acts : List Act} (h : .savePreferences ∉ acts) :
    (e.after acts).saved = e.saved := by
  induction acts generalizing e with
  | nil => rfl
  | cons act acts ih =>
    rw [List.mem_cons, not_or] at h
    exact (ih h.2).trans (saved_perform (Ne.symm h.1))

theorem loadPreferences_of_none (h : e.saved = none) : e.loadPreferences = e := by
  simp only [loadPreferences, h]

/-- Neither the caret that the editor has nor the text that it loads moves a saved caret, as long as
the caret was a place of the text with which it was saved. -/
theorem loadPreferences_of_isPlace (h : e.saved = some p)
    (hp : Document.IsPlace ⟨p.text⟩ p.caret) : e.loadPreferences = e.restored p := by
  have hclamp : Document.clamp ⟨p.text⟩ p.caret = p.caret := hp
  simp only [loadPreferences, h, setText, moveCaret, restored, document, hclamp]

end CaretSql.Editor
