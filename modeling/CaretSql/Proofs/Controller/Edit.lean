import CaretSql.Proofs.Controller.Operation
import CaretSql.Proofs.Editor.Places

/-! What the operations of a controller do to its editor. They do it by acts of the editor, so its
caret and selection are places of its text after any operations, as they are after any acts. -/

namespace CaretSql.Controller

open Editor (Act Alike)

variable {c : Controller}

def operate (c : Controller) (ops : List Operation) : Controller :=
  ops.foldl (fun c op => (c.step op).2) c

theorem operate_cons (c : Controller) (op : Operation) (ops : List Operation) :
    c.operate (op :: ops) = (c.step op).2.operate ops := rfl

theorem operate_append (c : Controller) (first second : List Operation) :
    c.operate (first ++ second) = (c.operate first).operate second := List.foldl_append

theorem state_of_idle (h : c.inFlight = none) : c.state = .idle := by
  simp [state, h]

theorem state_of_running {run : Run} (h : c.inFlight = some run) : c.state = .running := by
  simp [state, h]

@[simp] def Answer.reported? : Answer → Option TextRange
  | .completion (some (.failed _ location _)) => some location.span
  | _ => none

/-- An outcome leaves the editor alone and reports no failure, or it is that of the run in flight
and its place is marked in the editor. -/
theorem editor_complete (c : Controller) (now id : Nat) (outcome : Outcome) :
    ((c.complete now id outcome).2.editor = c.editor ∧
      (Answer.completion (c.complete now id outcome).1).reported? = none) ∨
    ∃ run offset, c.inFlight = some run ∧
      (c.complete now id outcome).2.editor =
        marked c.editor (ErrorLocation.locate c.editor.document run.request offset) ∧
      (Answer.completion (c.complete now id outcome).1).reported? =
        some (ErrorLocation.locate c.editor.document run.request offset).span := by
  by_cases h : ∃ run, c.inFlight = some run ∧ run.id = id
  · obtain ⟨run, hrun, rfl⟩ := h
    cases outcome with
    | ok result =>
      rw [complete_of_ok hrun]
      exact Or.inl ⟨rfl, rfl⟩
    | error failure =>
      rw [complete_of_error hrun]
      exact Or.inr ⟨run, failure.offset, hrun, rfl, rfl⟩
  · rw [complete_of_stale fun run hrun hid => h ⟨run, hrun, hid⟩]
    exact Or.inl ⟨rfl, rfl⟩

theorem editor_toggle (c : Controller) :
    c.toggle.2.editor = if c.state = .idle then c.prepared else c.editor := by
  rcases c.toggle_cases with ⟨run, hrun, ht⟩ | ⟨hidle, -, ht⟩ | ⟨hidle, request, -, ht⟩
  · rw [ht, state_of_running hrun]
    rfl
  · rw [ht, state_of_idle hidle]
    rfl
  · rw [ht, state_of_idle hidle]
    rfl

theorem editor_cancel (c : Controller) : c.cancel.2.editor = c.editor := by
  unfold cancel
  split <;> rfl

theorem edits_toggle (c : Controller) : ∃ acts, c.toggle.2.editor = c.editor.after acts := by
  rw [editor_toggle]
  split
  · exact ⟨[.clearMarkers, .savePreferences], rfl⟩
  · exact ⟨[], rfl⟩

theorem edits_toggle_after (c : Controller) (acts : List Act) :
    ∃ more, ({ c with editor := c.editor.after acts } : Controller).toggle.2.editor =
      c.editor.after more := by
  obtain ⟨more, h⟩ := ({ c with editor := c.editor.after acts } : Controller).edits_toggle
  exact ⟨acts ++ more, h.trans (Editor.after_append ..).symm⟩

/-- Whatever an operation does to the editor, it does by acts of the editor. -/
theorem edits_step (c : Controller) (op : Operation) :
    ∃ acts, (c.step op).2.editor = c.editor.after acts := by
  cases op with
  | toggle => exact c.edits_toggle
  | runQuery s => exact c.edits_toggle_after [.find ('\'' :: s ++ ['\''])]
  | appendAndRun s =>
    let document := (c.editor.append ('\n' :: s ++ [';'])).document
    exact c.edits_toggle_after
      [.append ('\n' :: s ++ [';']), .select (document.lineRange document.lineCount)]
  | cancel => exact ⟨[], c.editor_cancel⟩
  | complete now id outcome =>
    rcases c.editor_complete now id outcome with ⟨he, -⟩ | ⟨run, offset, -, he, -⟩
    · exact ⟨[], he⟩
    · let location := ErrorLocation.locate c.editor.document run.request offset
      exact ⟨[.addMarker location.span, .moveCaret location.position,
        .scrollToRow location.position.row, .focus], he⟩
  | insertText s => exact ⟨[.insert s, .focus], rfl⟩
  | setText s =>
    simp only [step, setText]
    split
    · exact ⟨[], rfl⟩
    · exact ⟨[.setText s], rfl⟩
  | focus => exact ⟨[.scrollToRow c.editor.caret.row, .focus], rfl⟩
  | loadPreferences => exact ⟨[.loadPreferences], rfl⟩
  | savePreferences => exact ⟨[.savePreferences], rfl⟩
  | registerActions => exact ⟨EditorAction.all.map .registerAction, rfl⟩
  | exportLink | setMaxHeight | removeNotification | clearNotifications => exact ⟨[], rfl⟩

theorem placed_step (h : c.editor.Placed) (op : Operation) : (c.step op).2.editor.Placed := by
  obtain ⟨acts, he⟩ := c.edits_step op
  rw [he]
  exact h.after acts

theorem placed_operate (h : c.editor.Placed) (ops : List Operation) :
    (c.operate ops).editor.Placed := by
  induction ops generalizing c with
  | nil => exact h
  | cons op ops ih => exact ih (placed_step h op)

theorem alike_registerActions (c : Controller) : Alike c.editor c.registerActions.editor :=
  ((Editor.alike_registerAction _ _).trans (Editor.alike_registerAction _ _)).trans
    (Editor.alike_registerAction _ _)

end CaretSql.Controller
