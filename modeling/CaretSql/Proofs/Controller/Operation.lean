import CaretSql.Controller
import CaretSql.Proofs.Editor.Act
import CaretSql.Proofs.Feed.Evict

/-! The operations of a controller as data, what each answers, and what the three that matter to a
run can do: a toggle cancels, finds nothing or issues a run, and an outcome is either discarded or
settles the run in flight. -/

namespace CaretSql.Controller

inductive Operation
  | toggle
  | runQuery (text : List Char)
  | appendAndRun (text : List Char)
  | cancel
  | complete (now id : Nat) (outcome : Outcome)
  | exportLink (query : Option (List Char))
  | insertText (text : List Char)
  | setText (text : List Char)
  | focus
  | loadPreferences
  | savePreferences
  | registerActions
  | setMaxHeight (height : Nat)
  | removeNotification (id : Nat)
  | clearNotifications

inductive Answer
  | done
  | directive (directive : Directive)
  | cancelled (id : Option Nat)
  | completion (completion : Option Completion)
  | link (url : Option (List Char))

def step (c : Controller) : Operation → Answer × Controller
  | .toggle => (.directive c.toggle.1, c.toggle.2)
  | .runQuery s => (.directive (c.runQuery s).1, (c.runQuery s).2)
  | .appendAndRun s => (.directive (c.appendAndRun s).1, (c.appendAndRun s).2)
  | .cancel => (.cancelled c.cancel.1, c.cancel.2)
  | .complete now id outcome =>
    (.completion (c.complete now id outcome).1, (c.complete now id outcome).2)
  | .exportLink query => (.link (c.exportLink? query), c)
  | .insertText s => (.done, c.insertText s)
  | .setText s => (.done, c.setText s)
  | .focus => (.done, c.focusEditor)
  | .loadPreferences => (.done, c.loadPreferences)
  | .savePreferences => (.done, c.savePreferences)
  | .registerActions => (.done, c.registerActions)
  | .setMaxHeight h => (.done, c.setMaxHeight h)
  | .removeNotification id => (.done, c.removeNotification id)
  | .clearNotifications => (.done, c.clearNotifications)

/-- What happens at a controller: an operation of its own, or an act in its editor. -/
inductive Deed
  | operation (op : Operation)
  | act (act : Editor.Act)

def deed (c : Controller) : Deed → Controller
  | .operation op => (c.step op).2
  | .act act => { c with editor := c.editor.perform act }

def after (c : Controller) (deeds : List Deed) : Controller := deeds.foldl deed c

theorem after_append (c : Controller) (first second : List Deed) :
    c.after (first ++ second) = (c.after first).after second := List.foldl_append

/-- what `toggle` starts from: the markers are gone and the preferences saved -/
def prepared (c : Controller) : Editor := c.editor.clearMarkers.savePreferences

def marked (e : Editor) (location : ErrorLocation) : Editor :=
  e.addMarker location.span |>.moveCaret location.position
    |>.scrollToRow location.position.row |>.focus

def notice : Outcome → NotificationKind × Option NotificationDetail
  | .ok result => announce result
  | .error failure => (.error, some (.message failure.message))

def noticed (f : Feed) (now : Nat) (query : List Char) (outcome : Outcome) : Nat × Feed :=
  f.notify now (notice outcome).1 (String.ofList query) (notice outcome).2

theorem cancel_of_idle {c : Controller} (h : c.inFlight = none) : c.cancel = (none, c) := by
  simp only [cancel, h]

theorem cancel_of_running {c : Controller} {run : Run} (h : c.inFlight = some run) :
    c.cancel = (some run.id,
      { c with inFlight := none, cancelled := c.cancelled ++ [run.id] }) := by
  simp only [cancel, h]

theorem toggle_of_running {c : Controller} {run : Run} (h : c.inFlight = some run) :
    c.toggle =
      (.cancelled run.id, { c with inFlight := none, cancelled := c.cancelled ++ [run.id] }) := by
  simp only [toggle, cancel_of_running h]

theorem toggle_of_idle {c : Controller} (h : c.inFlight = none) : c.toggle = c.start := by
  simp only [toggle, cancel_of_idle h]

theorem start_of_none {c : Controller}
    (h : Request.extract? c.prepared.document c.prepared.anchor = none) :
    c.start = (.nothing, { c with editor := c.prepared }) := by
  unfold prepared at h ⊢
  simp only [start, h]

theorem start_of_some {c : Controller} {request : Request}
    (h : Request.extract? c.prepared.document c.prepared.anchor = some request) :
    c.start = (.execute ⟨c.issued + 1, request⟩,
      { c with
        editor := c.prepared
        inFlight := some ⟨c.issued + 1, request⟩
        issued := c.issued + 1 }) := by
  unfold prepared at h ⊢
  simp only [start, h]

/-- A toggle cancels the run in flight, or finds nothing to run, or issues the next run. -/
theorem toggle_cases (c : Controller) :
    (∃ run, c.inFlight = some run ∧ c.toggle =
      (.cancelled run.id, { c with inFlight := none, cancelled := c.cancelled ++ [run.id] })) ∨
    (c.inFlight = none ∧ Request.extract? c.prepared.document c.prepared.anchor = none ∧
      c.toggle = (.nothing, { c with editor := c.prepared })) ∨
    (c.inFlight = none ∧ ∃ request,
      Request.extract? c.prepared.document c.prepared.anchor = some request ∧
      c.toggle = (.execute ⟨c.issued + 1, request⟩,
        { c with
          editor := c.prepared, inFlight := some ⟨c.issued + 1, request⟩,
          issued := c.issued + 1 })) := by
  rcases Option.eq_none_or_eq_some c.inFlight with h | ⟨run, h⟩
  · right
    rw [toggle_of_idle h]
    cases he : Request.extract? c.prepared.document c.prepared.anchor with
    | none => exact Or.inl ⟨h, rfl, start_of_none he⟩
    | some request => exact Or.inr ⟨h, request, rfl, start_of_some he⟩
  · exact Or.inl ⟨run, h, toggle_of_running h⟩

/-- The run is the latest one, in flight, and what the editor would send still. -/
structure Issued (c : Controller) (run : Run) : Prop where
  inFlight : c.inFlight = some run
  latest : run.id = c.issued
  request : Request.extract? c.editor.document c.editor.anchor = some run.request

theorem issued_toggle {c : Controller} {run : Run} (h : c.toggle.1 = .execute run) :
    c.toggle.2.Issued run := by
  rcases c.toggle_cases with ⟨other, -, ht⟩ | ⟨-, -, ht⟩ | ⟨-, request, hr, ht⟩
  · rw [ht] at h
    cases h
  · rw [ht] at h
    cases h
  · rw [ht] at h ⊢
    obtain rfl := Directive.execute.inj h
    exact ⟨rfl, rfl, hr⟩

theorem issued_step {c : Controller} {run : Run} {op : Operation}
    (h : (c.step op).1 = .directive (.execute run)) : (c.step op).2.Issued run := by
  cases op with
  | toggle => exact issued_toggle (Answer.directive.inj h)
  | runQuery s => exact issued_toggle (Answer.directive.inj h)
  | appendAndRun s => exact issued_toggle (Answer.directive.inj h)
  | _ => cases h

theorem complete_of_stale {c : Controller} {now id : Nat} {outcome : Outcome}
    (h : ∀ run, c.inFlight = some run → run.id ≠ id) : c.complete now id outcome = (none, c) := by
  unfold complete
  split
  · rfl
  · next run hrun => rw [if_pos (h run hrun)]

theorem complete_of_ok {c : Controller} {run : Run} {now : Nat} {result : QueryResult}
    (h : c.inFlight = some run) :
    c.complete now run.id (.ok result) =
      (some (.succeeded result (noticed c.feed now run.request.query (.ok result)).1),
        { c with
          feed := (noticed c.feed now run.request.query (.ok result)).2, inFlight := none }) := by
  simp only [complete, h, noticed, notice, ne_eq, not_true_eq_false, if_false]

theorem complete_of_error {c : Controller} {run : Run} {now : Nat} {failure : EngineFailure}
    (h : c.inFlight = some run) :
    c.complete now run.id (.error failure) =
      (some (.failed failure (ErrorLocation.locate c.editor.document run.request failure.offset)
          (noticed c.feed now run.request.query (.error failure)).1),
        { c with
          editor := marked c.editor
            (ErrorLocation.locate c.editor.document run.request failure.offset)
          feed := (noticed c.feed now run.request.query (.error failure)).2
          inFlight := none }) := by
  simp only [complete, h, noticed, notice, marked, ne_eq, not_true_eq_false, if_false]

/-- An outcome is discarded without a trace, or it settles the run in flight and is recorded. -/
theorem complete_cases (c : Controller) (now id : Nat) (outcome : Outcome) :
    ((∀ run, c.inFlight = some run → run.id ≠ id) ∧ c.complete now id outcome = (none, c)) ∨
    ∃ run completion editor, c.inFlight = some run ∧ run.id = id ∧
      c.complete now id outcome = (some completion,
        { c with
          editor
          feed := (noticed c.feed now run.request.query outcome).2
          inFlight := none }) := by
  by_cases h : ∃ run, c.inFlight = some run ∧ run.id = id
  · obtain ⟨run, hrun, rfl⟩ := h
    right
    cases outcome with
    | ok result => exact ⟨run, _, c.editor, hrun, rfl, complete_of_ok hrun⟩
    | error failure => exact ⟨run, _, _, hrun, rfl, complete_of_error hrun⟩
  · have stale : ∀ run, c.inFlight = some run → run.id ≠ id := by
      intro run hrun hid
      exact h ⟨run, hrun, hid⟩
    exact Or.inl ⟨stale, complete_of_stale stale⟩

theorem newest_notice {c : Controller} {run : Run} (h : c.inFlight = some run) (now : Nat)
    (outcome : Outcome) :
    (c.complete now run.id outcome).2.feed.state.notifications.head? =
      some ⟨c.feed.nextId now, (notice outcome).1, c.feed.heights.forKind (notice outcome).1,
        String.ofList run.request.query, (notice outcome).2⟩ := by
  cases outcome with
  | ok result =>
    rw [complete_of_ok h]
    exact Feed.newest_notify _ _ _ _ _
  | error failure =>
    rw [complete_of_error h]
    exact Feed.newest_notify _ _ _ _ _

theorem complete_of_none {c : Controller} {now id : Nat} {outcome : Outcome}
    (h : (c.complete now id outcome).1 = none) : c.complete now id outcome = (none, c) := by
  rcases c.complete_cases now id outcome with ⟨-, hc⟩ | ⟨run, completion, e, -, -, hc⟩
  · exact hc
  · rw [hc] at h
    cases h

end CaretSql.Controller
