import CaretSql.Proofs.Controller.Edit
import Mathlib.Data.List.Induction

/-! When a controller shows a marker. It shows one from an accepted failure on, over the span that
was reported, until a run is attempted or the text replaced; so there is never more than one, and
none while a run is in flight. -/

namespace CaretSql.Controller

/-- the answer accepts the outcome of a run -/
@[simp] def Answer.settles : Answer → Bool
  | .completion (some _) => true
  | _ => false

@[simp] def Operation.toggles : Operation → Bool
  | .toggle | .runQuery _ | .appendAndRun _ => true
  | _ => false

/-- the operation puts another text into this editor -/
@[simp] def Operation.replaces (e : Editor) : Operation → Bool
  | .setText s => !s.isEmpty
  | .loadPreferences => e.saved.isSome
  | _ => false

def attempts (c : Controller) (op : Operation) : Bool := c.state = .idle && op.toggles

/-- The operation settles no run here, attempts none and does not replace the text. -/
structure Quiet (c : Controller) (op : Operation) : Prop where
  settles : (c.step op).1.settles = false
  attempts : c.attempts op = false
  replaces : op.replaces c.editor = false

def QuietThrough (c : Controller) : List Operation → Prop
  | [] => True
  | op :: ops => c.Quiet op ∧ (c.step op).2.QuietThrough ops

/-- Among the operations the last that settled a run was told of a failure and reported this span,
and since then no run was attempted and the text was not replaced. -/
def Reported (c : Controller) (ops : List Operation) (span : TextRange) : Prop :=
  ∃ before op later, ops = before ++ op :: later ∧
    ((c.operate before).step op).1.reported? = some span ∧
    ((c.operate before).step op).2.QuietThrough later

variable {c : Controller} {op : Operation} {ops : List Operation} {span : TextRange}

theorem quietThrough_snoc : c.QuietThrough (ops ++ [op]) ↔
    c.QuietThrough ops ∧ (c.operate ops).Quiet op := by
  induction ops generalizing c with
  | nil => exact and_comm
  | cons first ops ih =>
    rw [List.cons_append, QuietThrough, QuietThrough, ih, operate_cons, and_assoc]

theorem markers_toggle (c : Controller) :
    c.toggle.2.editor.markers = if c.state = .idle then [] else c.editor.markers := by
  rw [editor_toggle]
  split <;> rfl

theorem markers_find (needle : List Char) (e : Editor) : (e.find needle).2.markers = e.markers := by
  unfold Editor.find
  split
  · rfl
  · split <;> rfl

theorem markers_setText (s : List Char) (c : Controller) :
    (c.setText s).editor.markers = if s.isEmpty then c.editor.markers else [] := by
  unfold setText
  split <;> rfl

theorem markers_loadPreferences (c : Controller) :
    c.loadPreferences.editor.markers =
      if c.editor.saved.isSome then [] else c.editor.markers := by
  unfold loadPreferences Editor.loadPreferences
  cases c.editor.saved <;> rfl

theorem markers_registerAction (e : Editor) (a : EditorAction) :
    (e.registerAction a).markers = e.markers := by
  unfold Editor.registerAction
  split <;> rfl

theorem markers_registerActions (c : Controller) :
    c.registerActions.editor.markers = c.editor.markers := by
  simp only [registerActions, EditorAction.all, List.foldl_cons, List.foldl_nil,
    markers_registerAction]

theorem markers_complete (c : Controller) (now id : Nat) (outcome : Outcome) :
    (c.complete now id outcome).2.editor.markers = c.editor.markers ++
      (Answer.completion (c.complete now id outcome).1).reported?.toList := by
  rcases c.editor_complete now id outcome with ⟨he, hr⟩ | ⟨run, offset, -, he, hr⟩
  · rw [he, hr]
    exact (List.append_nil _).symm
  · rw [he, hr]
    rfl

/-- What an operation leaves of the markers, and the one that it may add. -/
theorem markers_step (c : Controller) (op : Operation) :
    (c.step op).2.editor.markers =
      (if c.attempts op || op.replaces c.editor then [] else c.editor.markers) ++
        (c.step op).1.reported?.toList := by
  cases op with
  | toggle => simp [step, attempts, markers_toggle]
  | runQuery s => simp [step, attempts, runQuery, markers_toggle, markers_find, state]
  | appendAndRun s =>
    simp [step, attempts, appendAndRun, markers_toggle, state, Editor.select, Editor.append]
  | complete now id outcome => simp [step, attempts, markers_complete]
  | cancel => simp [step, attempts, editor_cancel]
  | setText s => simp [step, attempts, markers_setText]
  | loadPreferences => simp [step, attempts, markers_loadPreferences]
  | registerActions => simp [step, attempts, markers_registerActions]
  | insertText s => simp [step, attempts, insertText, Editor.insert, Editor.focus]
  | focus => simp [step, attempts, focusEditor, Editor.scrollToRow, Editor.focus]
  | savePreferences => simp [step, attempts, savePreferences, Editor.savePreferences]
  | exportLink | setMaxHeight | removeNotification | clearNotifications =>
    simp [step, attempts, setMaxHeight, removeNotification, clearNotifications]

/-- Only the run in flight is settled. -/
theorem running_of_settles (h : (c.step op).1.settles = true) : c.state = .running := by
  cases op with
  | complete now id outcome =>
    rcases c.complete_cases now id outcome with ⟨-, hc⟩ | ⟨run, completion, e, hrun, -, -⟩
    · simp [step, hc] at h
    · exact state_of_running hrun
  | _ => simp [step] at h

theorem settles_of_reported (h : (c.step op).1.reported? = some span) :
    (c.step op).1.settles = true := by
  generalize (c.step op).1 = answer at h ⊢
  unfold Answer.reported? at h
  split at h
  · rfl
  · cases h

theorem running_step (h : (c.step op).2.state = .running) :
    (c.attempts op = true ∨ c.state = .running) ∧ (c.step op).1.reported? = none := by
  have attempted {e : Editor} (h : ({ c with editor := e } : Controller).toggle.2.state = .running) :
      c.state = .idle := by
    rcases ({ c with editor := e } : Controller).toggle_cases with ⟨run, -, ht⟩ | ⟨hidle, -⟩ | ⟨hidle, -⟩
    · rw [ht] at h
      cases h
    · exact state_of_idle hidle
    · exact state_of_idle hidle
  cases op with
  | toggle => exact ⟨Or.inl (by simp [attempts, attempted (e := c.editor) h]), rfl⟩
  | runQuery s => exact ⟨Or.inl (by simp [attempts, attempted h]), rfl⟩
  | appendAndRun s => exact ⟨Or.inl (by simp [attempts, attempted h]), rfl⟩
  | complete now id outcome =>
    rcases c.complete_cases now id outcome with ⟨-, hc⟩ | ⟨run, completion, e, -, -, hc⟩
    · simp only [step, hc] at h ⊢
      exact ⟨Or.inr h, rfl⟩
    · simp only [step, hc] at h
      cases h
  | cancel =>
    simp only [step, cancel] at h
    split at h
    · exact ⟨Or.inr h, rfl⟩
    · cases h
  | setText s =>
    simp only [step, setText] at h
    split at h <;> exact ⟨Or.inr h, rfl⟩
  | _ => exact ⟨Or.inr h, rfl⟩

theorem unmarked_step (hc : c.state = .running → c.editor.markers = [])
    (h : (c.step op).2.state = .running) : (c.step op).2.editor.markers = [] := by
  obtain ⟨hrunning, hreported⟩ := running_step h
  rw [markers_step, hreported]
  rcases hrunning with hattempts | hrunning
  · simp [hattempts]
  · simp [hc hrunning]

theorem unmarked_operate (hc : c.state = .running → c.editor.markers = []) (ops : List Operation) :
    (c.operate ops).state = .running → (c.operate ops).editor.markers = [] := by
  induction ops generalizing c with
  | nil => exact hc
  | cons op ops ih => exact ih (unmarked_step hc)

theorem length_markers_step (hc : c.state = .running → c.editor.markers = [])
    (hone : c.editor.markers.length ≤ 1) : (c.step op).2.editor.markers.length ≤ 1 := by
  rw [markers_step]
  cases hreported : (c.step op).1.reported? with
  | none =>
    split
    · exact Nat.zero_le _
    · simpa using hone
  | some span =>
    rw [hc (running_of_settles (settles_of_reported hreported)), ite_self]
    exact Nat.le_refl _

theorem length_markers_operate (hc : c.state = .running → c.editor.markers = [])
    (hone : c.editor.markers.length ≤ 1) (ops : List Operation) :
    (c.operate ops).editor.markers.length ≤ 1 := by
  induction ops generalizing c with
  | nil => exact hone
  | cons op ops ih => exact ih (unmarked_step hc) (length_markers_step hc hone)

/-- A marker stands after an operation that put it there, or through one that is quiet. -/
theorem mem_markers_step (hc : c.state = .running → c.editor.markers = []) :
    span ∈ (c.step op).2.editor.markers ↔
      (c.step op).1.reported? = some span ∨ span ∈ c.editor.markers ∧ c.Quiet op := by
  rw [markers_step, List.mem_append, Option.mem_toList, or_comm]
  refine or_congr Iff.rfl ?_
  constructor
  · intro h
    split at h
    · cases h
    · next hkeeps =>
      simp only [Bool.or_eq_true, not_or, Bool.not_eq_true] at hkeeps
      refine ⟨h, ?_, hkeeps.1, hkeeps.2⟩
      rw [Bool.eq_false_iff]
      intro hsettles
      rw [hc (running_of_settles hsettles)] at h
      cases h
  · rintro ⟨h, hquiet⟩
    rw [hquiet.attempts, hquiet.replaces]
    exact h

theorem reported_snoc : c.Reported (ops ++ [op]) span ↔
    ((c.operate ops).step op).1.reported? = some span ∨
      c.Reported ops span ∧ (c.operate ops).Quiet op := by
  constructor
  · rintro ⟨before, first, later, heq, hreported, hquiet⟩
    rcases List.eq_nil_or_concat later with rfl | ⟨later, last, rfl⟩
    · obtain ⟨rfl, hop⟩ := List.append_inj' heq rfl
      obtain rfl := List.singleton_inj.mp hop
      exact Or.inl hreported
    · rw [List.concat_eq_append] at hquiet heq
      rw [← List.cons_append, ← List.append_assoc] at heq
      obtain ⟨rfl, hop⟩ := List.append_inj' heq rfl
      obtain rfl := List.singleton_inj.mp hop
      obtain ⟨hthrough, hlast⟩ := quietThrough_snoc.mp hquiet
      refine Or.inr ⟨⟨before, first, later, rfl, hreported, hthrough⟩, ?_⟩
      rw [operate_append]
      exact hlast
  · rintro (hreported | ⟨⟨before, first, later, rfl, hreported, hthrough⟩, hlast⟩)
    · exact ⟨ops, op, [], rfl, hreported, trivial⟩
    · rw [operate_append] at hlast
      exact ⟨before, first, later ++ [op], by simp, hreported, quietThrough_snoc.mpr ⟨hthrough, hlast⟩⟩

theorem mem_markers_operate (hnone : c.editor.markers = []) (ops : List Operation) :
    span ∈ (c.operate ops).editor.markers ↔ c.Reported ops span := by
  induction ops using List.reverseRecOn with
  | nil =>
    rw [operate, List.foldl_nil, hnone]
    simp [Reported]
  | append_singleton ops op ih =>
    have hc := unmarked_operate (c := c) (fun _ => hnone) ops
    rw [reported_snoc, ← ih, operate_append]
    exact mem_markers_step hc

/-- A controller whose editor began without markers shows none while a run is in flight and never
more than one; and it shows a marker just if the last run that was settled failed, no run was
attempted since and the text was not replaced. The marker is then the span that was reported. -/
theorem one_marker_at_most {e : Editor} (h : e.markers = []) (f : Feed) (ops : List Operation) :
    let c := ({ editor := e, feed := f } : Controller).operate ops
    (c.state = .running → c.editor.markers = []) ∧ c.editor.markers.length ≤ 1 ∧
      ∀ span, span ∈ c.editor.markers ↔
        ({ editor := e, feed := f } : Controller).Reported ops span :=
  ⟨unmarked_operate (fun _ => h) ops,
    length_markers_operate (fun _ => h) (by rw [h]; exact Nat.zero_le _) ops,
    fun _ => mem_markers_operate h ops⟩

/-- A failure of `x`, text inserted before it, and the same outcome once more. -/
theorem one_marker_at_most_edited :
    let e : Editor := { text := ['x'] }
    let start : Controller := { editor := e, feed := .empty 500 ⟨145, 70⟩ }
    let failing : Operation := .complete 0 1 (.error ⟨"no such column", 0⟩)
    let ops : List Operation := [.toggle, failing, .insertText ['y', ' '], failing]
    e.markers = [] ∧ (start.operate ops).editor.markers.length ≤ 1 ∧
      ⟨⟨1, 0⟩, ⟨1, 1⟩⟩ ∈ (start.operate ops).editor.markers ∧
      start.Reported ops ⟨⟨1, 0⟩, ⟨1, 1⟩⟩ := by
  intro e start failing ops
  obtain ⟨-, hone, hiff⟩ := one_marker_at_most (e := e) rfl (.empty 500 ⟨145, 70⟩) ops
  have hmem : ⟨⟨1, 0⟩, ⟨1, 1⟩⟩ ∈ (start.operate ops).editor.markers := by decide +kernel
  exact ⟨rfl, hone, hmem, (hiff _).mp hmem⟩

end CaretSql.Controller
