import CaretSql.Proofs.Controller.Notices

/-! Single flight. After any operations on a new controller each issued run is in flight, cancelled
or completed, and in one of these classes only; the run in flight is the latest, and its outcome is
the only one that is accepted. Each accepted outcome makes one notification. -/

namespace CaretSql.Ledger

open Controller (Deed)

inductive Fate
  | inFlight
  | cancelled
  | completed

def Meets (l : Ledger) (c : Controller) (run : Run) : Fate → Prop
  | .inFlight => c.inFlight = some run
  | .cancelled => run.id ∈ l.cancelled
  | .completed => run.id ∈ l.completed

/-- What the caller of a controller can rely on. -/
structure SingleFlight (l : Ledger) (c : Controller) : Prop where
  fate : ∀ run ∈ l.issued, ∃! fate, l.Meets c run fate
  distinct : (l.issued.map (·.id)).Nodup
  /-- nothing but issued runs was cancelled or completed, and none of them twice -/
  once : (l.cancelled ++ l.completed).Nodup ∧
    ∀ id ∈ l.cancelled ++ l.completed, ∃ run ∈ l.issued, run.id = id
  /-- the run in flight is the one that was issued last, as it was issued -/
  latest : ∀ run, c.inFlight = some run →
    l.issued.getLast? = some run ∧ c.currentRequest = some run.request ∧ run.id ∉ c.cancelled
  tokens : ∀ run ∈ l.issued, run.id ∈ c.cancelled ↔ l.Meets c run .cancelled
  untouched : ∀ run ∈ l.issued, l.Meets c run .completed → run.id ∉ c.cancelled
  state : c.state = .running ↔ ∃ run ∈ l.issued, l.Meets c run .inFlight
  accepts : ∀ now id outcome, (c.complete now id outcome).1.isSome ↔
    ∃ run ∈ l.issued, l.Meets c run .inFlight ∧ run.id = id
  /-- as many notifications were made as runs were completed, one about each in their order, and their
  ids tell them apart -/
  counted : l.created.length = l.completed.length
  told : List.Forall₂ l.Tells l.created l.completed
  ascending : (l.created.map (·.id)).Pairwise (· < ·)
  /-- an accepted outcome brings a new notification to the top of the feed -/
  announced : ∀ now id outcome, (c.complete now id outcome).1.isSome →
    ∃ n, n ∉ c.feed.state.notifications ∧ l.Tells n id ∧
      (n.kind, n.detail) = Controller.notice outcome ∧
      (c.complete now id outcome).2.feed.state.notifications.head? = some n
  /-- what is refused leaves no trace, and a cancellation leaves none in the editor and the feed -/
  discarded : ∀ now id outcome,
    (c.complete now id outcome).1 = none → (c.complete now id outcome).2 = c
  exported : ∀ query, (c.step (.exportLink query)).2 = c
  idle : c.cancel.1 = none → c.cancel.2 = c
  cancelled : c.cancel.2.editor = c.editor ∧ c.cancel.2.feed = c.feed
  toggled : c.state = .running → c.toggle.2 = c.cancel.2

variable {seen : List Nat} {l : Ledger} {c : Controller} {run : Run}

theorem Balanced.nodup (h : Balanced l c) :
    (l.cancelled ++ l.completed ++ c.inFlight.toList.map (·.id)).Nodup :=
  h.accounted.nodup_iff.mpr h.nodup_issued

theorem Balanced.exists_fate (h : Balanced l c) (hmem : run ∈ l.issued) :
    ∃ fate, l.Meets c run fate := by
  have hid : run.id ∈ l.cancelled ++ l.completed ++ c.inFlight.toList.map (·.id) :=
    h.accounted.mem_iff.mpr (List.mem_map_of_mem hmem)
  rcases List.mem_append.mp hid with hid | hid
  · rcases List.mem_append.mp hid with hid | hid
    · exact ⟨.cancelled, hid⟩
    · exact ⟨.completed, hid⟩
  · obtain ⟨other, hother, heq⟩ := List.mem_map.mp hid
    have hflight : c.inFlight = some other := Option.mem_toList.mp hother
    obtain rfl := h.eq_of_id (h.mem_issued hflight) hmem heq
    exact ⟨.inFlight, hflight⟩

theorem Balanced.not_cancelled_completed (h : Balanced l c) {id : Nat}
    (hc : id ∈ l.cancelled) : id ∉ l.completed := by
  have hnd := (List.nodup_append.mp h.nodup).1
  intro hd
  exact (List.nodup_append.mp hnd).2.2 id hc id hd rfl

theorem Balanced.not_mem_of_inFlight (h : Balanced l c) (hrun : c.inFlight = some run) :
    run.id ∉ l.cancelled ∧ run.id ∉ l.completed := by
  have hdisj := (List.nodup_append.mp h.nodup).2.2
  have hmem : run.id ∈ c.inFlight.toList.map (·.id) := by simp [hrun]
  constructor
  · intro hc
    exact hdisj run.id (List.mem_append_left _ hc) run.id hmem rfl
  · intro hd
    exact hdisj run.id (List.mem_append_right _ hd) run.id hmem rfl

theorem Balanced.fate_unique (h : Balanced l c) {a b : Fate} (ha : l.Meets c run a)
    (hb : l.Meets c run b) : a = b := by
  cases a with
  | inFlight =>
    cases b with
    | inFlight => rfl
    | cancelled => exact absurd hb (h.not_mem_of_inFlight ha).1
    | completed => exact absurd hb (h.not_mem_of_inFlight ha).2
  | cancelled =>
    cases b with
    | inFlight => exact absurd ha (h.not_mem_of_inFlight hb).1
    | cancelled => rfl
    | completed => exact absurd hb (h.not_cancelled_completed ha)
  | completed =>
    cases b with
    | inFlight => exact absurd ha (h.not_mem_of_inFlight hb).2
    | cancelled => exact absurd ha (h.not_cancelled_completed hb)
    | completed => rfl

theorem Balanced.isSome_complete (h : Balanced l c) (now id : Nat) (outcome : Outcome) :
    (c.complete now id outcome).1.isSome ↔
      ∃ run ∈ l.issued, l.Meets c run .inFlight ∧ run.id = id := by
  rcases c.complete_cases now id outcome with ⟨hstale, hc⟩ | ⟨run, completion, e, hrun, hid, hc⟩
  · rw [hc]
    constructor
    · intro hsome
      cases hsome
    · rintro ⟨run, -, hrun, hid⟩
      exact absurd hid (hstale run hrun)
  · rw [hc]
    constructor
    · intro _
      exact ⟨run, h.mem_issued hrun, hrun, hid⟩
    · intro _
      rfl

theorem Balanced.state_eq_running (h : Balanced l c) :
    c.state = .running ↔ ∃ run ∈ l.issued, l.Meets c run .inFlight := by
  unfold Controller.state
  rcases Option.eq_none_or_eq_some c.inFlight with hidle | ⟨run, hrun⟩
  · simp [hidle, Meets]
  · simp only [hrun, Option.isSome_some, if_true, true_iff]
    exact ⟨run, h.mem_issued hrun, hrun⟩

theorem discarded_complete {now id : Nat} {outcome : Outcome}
    (hnone : (c.complete now id outcome).1 = none) : (c.complete now id outcome).2 = c := by
  rw [Controller.complete_of_none hnone]

theorem cancel_frame (c : Controller) :
    c.cancel.2.editor = c.editor ∧ c.cancel.2.feed = c.feed := by
  rcases Option.eq_none_or_eq_some c.inFlight with hidle | ⟨run, hrun⟩
  · rw [Controller.cancel_of_idle hidle]
    exact ⟨rfl, rfl⟩
  · rw [Controller.cancel_of_running hrun]
    exact ⟨rfl, rfl⟩

theorem Balanced.announced (h : Balanced l c) (hnotices : Announced seen l c.feed) {now id : Nat}
    {outcome : Outcome} (hsome : (c.complete now id outcome).1.isSome) :
    ∃ n, n ∉ c.feed.state.notifications ∧ l.Tells n id ∧
      (n.kind, n.detail) = Controller.notice outcome ∧
      (c.complete now id outcome).2.feed.state.notifications.head? = some n := by
  obtain ⟨run, hmem, hrun, rfl⟩ := (h.isSome_complete now id outcome).mp hsome
  refine ⟨_, ?_, ⟨run, hmem, rfl, ?_⟩, ?_, Controller.newest_notice hrun now outcome⟩
  · intro hheld
    exact Nat.lt_irrefl _ (hnotices.tracked.lt_nextId now _ (hnotices.tracked.held _ hheld))
  · rfl
  · rfl

theorem Balanced.singleFlight (h : Balanced l c) (hnotices : Announced seen l c.feed) :
    SingleFlight l c where
  fate := by
    intro run hmem
    obtain ⟨fate, hfate⟩ := h.exists_fate hmem
    exact ⟨fate, hfate, fun other hother => h.fate_unique hother hfate⟩
  distinct := h.nodup_issued
  once := by
    refine ⟨(List.nodup_append.mp h.nodup).1, ?_⟩
    intro id hid
    exact List.mem_map.mp (h.accounted.mem_iff.mp (List.mem_append_left _ hid))
  latest := by
    intro run hrun
    refine ⟨h.latest run hrun, by simp [Controller.currentRequest, hrun], ?_⟩
    rw [h.tokens]
    exact (h.not_mem_of_inFlight hrun).1
  tokens := by
    intro run _
    rw [h.tokens]
    rfl
  untouched := by
    intro run _ hdone htoken
    rw [h.tokens] at htoken
    exact h.not_cancelled_completed htoken hdone
  state := h.state_eq_running
  accepts := h.isSome_complete
  counted := hnotices.told.length_eq
  told := hnotices.told
  ascending := hnotices.ascending
  announced := fun _ _ _ => h.announced hnotices
  discarded := fun _ _ _ => discarded_complete
  exported := fun _ => rfl
  idle := by
    intro hnone
    rcases Option.eq_none_or_eq_some c.inFlight with hidle | ⟨run, hrun⟩
    · rw [Controller.cancel_of_idle hidle]
    · rw [Controller.cancel_of_running hrun] at hnone
      cases hnone
  cancelled := cancel_frame c
  toggled := by
    intro hrunning
    obtain ⟨run, -, hrun⟩ := h.state_eq_running.mp hrunning
    rw [Controller.toggle_of_running hrun, Controller.cancel_of_running hrun]

/-- Any operations in any order, with outcomes for whatever ids and with anything done in the
editor between them, keep to single flight, whatever was done to the feed before. -/
theorem single_flight (e : Editor) (maxHeight : Nat) (heights : HeightEstimates)
    (ops : List Feed.Operation) (deeds : List Deed) :
    let c : Controller := { editor := e, feed := (Feed.empty maxHeight heights).after ops }
    SingleFlight (({} : Ledger).keep c deeds) (c.after deeds) := by
  intro c
  have hbooks := balanced_new e c.feed
  have hnotices := announced_new ((Feed.tracks_empty maxHeight heights).after ops)
  exact (balanced_after hbooks deeds).singleFlight (announced_after hbooks hnotices deeds)

end CaretSql.Ledger
