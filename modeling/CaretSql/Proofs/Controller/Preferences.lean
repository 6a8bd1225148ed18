import CaretSql.Proofs.Controller.Marker
import CaretSql.Proofs.Editor.Preferences

/-! The preferences of a controller. They are saved when that is asked for and whenever a run is
attempted; whatever happens afterwards, loading them brings back the text and the caret of then. -/

namespace CaretSql.Controller

open Editor (Act)

def saves (c : Controller) : Operation → Bool
  | .savePreferences => true
  | op => c.attempts op

def UnsavedThrough (c : Controller) : List Operation → Prop
  | [] => True
  | op :: ops => c.saves op = false ∧ (c.step op).2.UnsavedThrough ops

instance decidableUnsavedThrough (c : Controller) :
    (ops : List Operation) → Decidable (c.UnsavedThrough ops)
  | [] => inferInstanceAs (Decidable True)
  | op :: ops =>
    have := decidableUnsavedThrough (c.step op).2 ops
    inferInstanceAs (Decidable (_ ∧ _))

variable {c : Controller} {op : Operation} {ops : List Operation}

theorem saved_toggle (c : Controller) :
    c.toggle.2.editor.saved =
      if c.state = .idle then some c.editor.preferences else c.editor.saved := by
  rw [editor_toggle]
  split <;> rfl

theorem preferences_toggle (c : Controller) :
    c.toggle.2.editor.preferences = c.editor.preferences := by
  rw [editor_toggle]
  split <;> rfl

theorem saved_complete (c : Controller) (now id : Nat) (outcome : Outcome) :
    (c.complete now id outcome).2.editor.saved = c.editor.saved := by
  rcases c.editor_complete now id outcome with ⟨he, -⟩ | ⟨run, offset, -, he, -⟩
  · rw [he]
  · rw [he]
    rfl

theorem saved_setText (s : List Char) (c : Controller) :
    (c.setText s).editor.saved = c.editor.saved := by
  unfold setText
  split <;> rfl

theorem saved_registerActions (c : Controller) :
    c.registerActions.editor.saved = c.editor.saved := by
  simp only [registerActions, EditorAction.all, List.foldl_cons, List.foldl_nil,
    Editor.saved_registerAction]

/-- After an operation the editor has saved what it had saved before or, if the operation saves the
preferences, those that it has then. -/
theorem saved_step (c : Controller) (op : Operation) :
    (c.step op).2.editor.saved =
      if c.saves op then some (c.step op).2.editor.preferences else c.editor.saved := by
  cases op with
  | toggle => simp [step, saves, attempts, saved_toggle, preferences_toggle]
  | runQuery s =>
    simp [step, saves, attempts, runQuery, saved_toggle, preferences_toggle, state,
      Editor.saved_find]
  | appendAndRun s =>
    simp [step, saves, attempts, appendAndRun, saved_toggle, preferences_toggle, state,
      Editor.select, Editor.append]
  | complete now id outcome => simp [step, saves, attempts, saved_complete]
  | cancel => simp [step, saves, attempts, editor_cancel]
  | setText s => simp [step, saves, attempts, saved_setText]
  | registerActions => simp [step, saves, attempts, saved_registerActions]
  | loadPreferences =>
    simp [step, saves, attempts, loadPreferences, Editor.saved_loadPreferences]
  | savePreferences => rfl
  | insertText | focus | exportLink | setMaxHeight | removeNotification | clearNotifications =>
    rw [if_neg (by simp [saves, attempts])]
    rfl

theorem saved_operate (h : c.UnsavedThrough ops) :
    (c.operate ops).editor.saved = c.editor.saved := by
  induction ops generalizing c with
  | nil => rfl
  | cons op ops ih =>
    obtain ⟨hop, hops⟩ := h
    rw [operate_cons, ih hops, saved_step, hop]
    rfl

/-- The preferences that an operation has saved come back as they were, whatever was done since then
without saving others, and nothing else is changed but that the selection and the markers go. What a
toggle saves, or the operation that is there for it, is the text and the caret from before. Where
nothing was saved, loading changes nothing. -/
theorem preferences_come_back (text : List Char) (acts : List Act) (f : Feed)
    (ops : List Operation) :
    let start : Controller := { editor := ({ text } : Editor).after acts, feed := f }
    let c := start.operate ops
    (∀ op later, c.saves op = true → (c.step op).2.UnsavedThrough later →
      let saved := (c.step op).2.editor.preferences
      let now := (c.step op).2.operate later
      now.loadPreferences = { now with editor := now.editor.restored saved }) ∧
    (c.step .toggle).2.editor.preferences = c.editor.preferences ∧
    (c.step .savePreferences).2.editor.preferences = c.editor.preferences ∧
    (.savePreferences ∉ acts → start.UnsavedThrough ops → c.loadPreferences = c) := by
  intro start c
  have hplaced : c.editor.Placed := placed_operate ((Editor.placed_new text).after acts) ops
  refine ⟨?_, c.preferences_toggle, rfl, ?_⟩
  · intro op later hsaves hlater saved now
    have hsaved : now.editor.saved = some saved := by
      rw [saved_operate hlater, saved_step, if_pos hsaves]
    rw [loadPreferences, Editor.loadPreferences_of_isPlace hsaved (placed_step hplaced op).caret]
  · intro hacts hops
    have hnone : c.editor.saved = none := (saved_operate hops).trans (Editor.saved_after hacts)
    rw [loadPreferences, Editor.loadPreferences_of_none hnone]

/-- The caret of a run in the second row, which comes back into another text of one row after the run
was cancelled. -/
theorem preferences_come_back_second_row :
    let start : Controller :=
      { editor := ({ text := ['1', '\n', '2'] } : Editor).after [.moveCaret ⟨2, 1⟩]
        feed := .empty 500 ⟨145, 70⟩ }
    let later : List Operation := [.setText ['3'], .toggle, .insertText ['4']]
    start.saves .toggle = true ∧ (start.step .toggle).2.UnsavedThrough later ∧
      let back := ((start.step .toggle).2.operate later).loadPreferences
      back.editor.text = ['1', '\n', '2'] ∧ back.editor.caret = ⟨2, 1⟩ ∧ back.state = .idle := by
  intro start later
  have hsaves : start.saves .toggle = true := rfl
  have hlater : (start.step .toggle).2.UnsavedThrough later := by decide +kernel
  obtain ⟨hback, htoggle, -⟩ := preferences_come_back ['1', '\n', '2'] [.moveCaret ⟨2, 1⟩]
    (.empty 500 ⟨145, 70⟩) []
  have hsaved : (start.step .toggle).2.editor.preferences = ⟨['1', '\n', '2'], ⟨2, 1⟩⟩ :=
    htoggle.trans (by decide +kernel)
  have hloaded := hback .toggle later hsaves hlater
  refine ⟨hsaves, hlater, ?_, ?_, by decide +kernel⟩
  · exact (congrArg (·.editor.text) hloaded).trans (congrArg Preferences.text hsaved)
  · exact (congrArg (·.editor.caret) hloaded).trans (congrArg Preferences.caret hsaved)

end CaretSql.Controller
