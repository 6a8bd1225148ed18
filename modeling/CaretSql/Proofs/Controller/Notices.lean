import CaretSql.Proofs.Controller.Ledger
import CaretSql.Proofs.Feed.Ids

/-! The notifications that a controller makes. Every accepted outcome brings a new one into the feed,
with the statement of its run for a title, and nothing else brings any. -/

namespace CaretSql.Ledger

open Controller (Operation Deed)

/-- The notification has the statement of the run with this id for its title. -/
def Tells (l : Ledger) (n : Notification) (id : Nat) : Prop :=
  ∃ run ∈ l.issued, run.id = id ∧ n.title = String.ofList run.request.query

/-- The books agree with a feed that had seen these ids when they were opened. -/
structure Announced (seen : List Nat) (l : Ledger) (f : Feed) : Prop where
  tracked : f.Tracks (seen ++ l.created.map (·.id))
  ascending : (l.created.map (·.id)).Pairwise (· < ·)
  told : List.Forall₂ l.Tells l.created l.completed

variable {seen : List Nat} {l : Ledger} {f : Feed} {c : Controller} {run : Run}

theorem announced_new (h : f.Tracks seen) : Announced seen {} f where
  tracked := by simpa using h
  ascending := List.Pairwise.nil
  told := List.Forall₂.nil

/-- What was told of a run stands when another is issued. -/
theorem Announced.issue (h : Announced seen l f) (run : Run) : Announced seen (l.issue run) f where
  tracked := h.tracked
  ascending := h.ascending
  told := by
    refine h.told.imp fun n id => ?_
    rintro ⟨other, hmem, htells⟩
    exact ⟨other, List.mem_append_left _ hmem, htells⟩

theorem Announced.cancel (h : Announced seen l f) (id : Nat) : Announced seen (l.cancel id) f :=
  ⟨h.tracked, h.ascending, h.told⟩

/-- Nothing is entered for a feed that nothing comes into. -/
theorem Announced.perform (h : Announced seen l f) (op : Feed.Operation)
    (hop : f.incoming? op = none) :
    Announced seen (l.observe f (f.perform op)) (f.perform op) := by
  have hnone : l.observe f (f.perform op) = l := by
    rw [observe, Feed.arrivals_of_sublist (Feed.perform_sublist hop), List.append_nil]
  have htracks := h.tracked.perform op
  rw [hop, Option.map_none, Option.toList_none, List.append_nil] at htracks
  rw [hnone]
  exact ⟨htracks, h.ascending, h.told⟩

theorem Announced.unchanged (h : Announced seen l f) : Announced seen (l.observe f f) f := by
  rw [observe, Feed.arrivals_self, List.append_nil]
  exact h

theorem Announced.complete (h : Announced seen l f) (hmem : run ∈ l.issued) (now : Nat)
    (outcome : Outcome) :
    let f' := (Controller.noticed f now run.request.query outcome).2
    Announced seen ((l.complete run.id).observe f f') f' := by
  intro f'
  have harrived := h.tracked.arrivals_notify now (Controller.notice outcome).1
    (String.ofList run.request.query) (Controller.notice outcome).2
  have hcreated : ((l.complete run.id).observe f f').created =
      l.created ++ [⟨f.nextId now, _, _, String.ofList run.request.query, _⟩] :=
    congrArg (l.created ++ ·) harrived
  constructor
  case tracked =>
    rw [hcreated, List.map_append, ← List.append_assoc]
    exact h.tracked.perform (.notify now _ _ _)
  case ascending =>
    rw [hcreated, List.map_append, List.pairwise_append]
    refine ⟨h.ascending, List.pairwise_singleton _ _, fun id hid id' hid' => ?_⟩
    rw [List.mem_singleton.mp hid']
    exact h.tracked.lt_nextId now id (List.mem_append_right _ hid)
  case told =>
    rw [hcreated]
    exact List.rel_append h.told (List.Forall₂.cons ⟨run, hmem, rfl, rfl⟩ List.Forall₂.nil)

theorem Announced.toggle (h : Announced seen l c.feed) (op : Operation) :
    Announced seen ((l.record op (.directive c.toggle.1)).observe c.feed c.toggle.2.feed)
      c.toggle.2.feed := by
  rcases c.toggle_cases with ⟨run, -, ht⟩ | ⟨-, -, ht⟩ | ⟨-, request, -, ht⟩
  · rw [ht]
    simpa only [record] using (h.cancel run.id).unchanged
  · rw [ht]
    simpa only [record] using h.unchanged
  · rw [ht]
    simpa only [record] using (h.issue ⟨c.issued + 1, request⟩).unchanged

theorem announced_step (hbooks : Balanced l c) (h : Announced seen l c.feed) (op : Operation) :
    Announced seen ((l.record op (c.step op).1).observe c.feed (c.step op).2.feed)
      (c.step op).2.feed := by
  cases op with
  | toggle => exact h.toggle .toggle
  | runQuery s => exact Announced.toggle (c := { c with editor := (c.editor.find _).2 }) h (.runQuery s)
  | appendAndRun s =>
    exact Announced.toggle (c := { c with editor := c.editor.append _ |>.select _ }) h (.appendAndRun s)
  | cancel =>
    simp only [Controller.step]
    rcases Option.eq_none_or_eq_some c.inFlight with hidle | ⟨run, hrun⟩
    · rw [Controller.cancel_of_idle hidle]
      exact h.unchanged
    · rw [Controller.cancel_of_running hrun]
      exact (h.cancel run.id).unchanged
  | complete now id outcome =>
    simp only [Controller.step]
    rcases c.complete_cases now id outcome with ⟨-, hc⟩ | ⟨run, completion, e, hrun, rfl, hc⟩
    · rw [hc]
      exact h.unchanged
    · rw [hc]
      exact h.complete (hbooks.mem_issued hrun) now outcome
  | setMaxHeight height => exact h.perform (.setMaxHeight height) rfl
  | removeNotification id => exact h.perform (.remove id) rfl
  | clearNotifications => exact h.perform .clear rfl
  | setText s =>
    simp only [Controller.step, Controller.setText]
    split
    · exact h.unchanged
    · exact h.unchanged
  | exportLink | insertText | focus | loadPreferences | savePreferences | registerActions =>
    exact h.unchanged

theorem announced_deed (hbooks : Balanced l c) (h : Announced seen l c.feed) (deed : Deed) :
    Announced seen (l.enter c deed) (c.deed deed).feed := by
  cases deed with
  | operation op => exact announced_step hbooks h op
  | act act => exact h.unchanged

theorem announced_after (hbooks : Balanced l c) (h : Announced seen l c.feed) (deeds : List Deed) :
    Announced seen (l.keep c deeds) (c.after deeds).feed := by
  induction deeds generalizing l c with
  | nil => exact h
  | cons deed deeds ih => exact ih (balanced_deed hbooks deed) (announced_deed hbooks h deed)

end CaretSql.Ledger
