import CaretSql.Proofs.Controller.Operation
import CaretSql.Proofs.Feed.Operation
import Mathlib.Data.List.Induction
import Mathlib.Data.List.Nodup

/-! The books that a caller can keep of a controller: of its runs from what it answers, and of its
notifications from what its feed shows. Each step keeps every issued run in one class and the token list
in line with the cancelled runs. -/

namespace CaretSql

open Controller (Operation Answer Deed)

/-- What a controller lets be seen of its runs and notifications, oldest first. -/
structure Ledger where
  issued : List Run := []
  cancelled : List Nat := []
  completed : List Nat := []
  /-- whatever was found in the feed that had not been in it before -/
  created : List Notification := []

namespace Ledger

def issue (l : Ledger) (run : Run) : Ledger := { l with issued := l.issued ++ [run] }

def cancel (l : Ledger) (id : Nat) : Ledger := { l with cancelled := l.cancelled ++ [id] }

def complete (l : Ledger) (id : Nat) : Ledger := { l with completed := l.completed ++ [id] }

def record (l : Ledger) : Operation → Answer → Ledger
  | _, .directive (.execute run) => l.issue run
  | _, .directive (.cancelled id) => l.cancel id
  | _, .cancelled (some id) => l.cancel id
  | .complete _ id _, .completion (some _) => l.complete id
  | _, _ => l

def observe (l : Ledger) (before after : Feed) : Ledger :=
  { l with created := l.created ++ Feed.arrivals before after }

def enter (l : Ledger) (c : Controller) (deed : Deed) : Ledger :=
  let l' := match deed with
    | .operation op => l.record op (c.step op).1
    | .act _ => l
  l'.observe c.feed (c.deed deed).feed

def keep (l : Ledger) (c : Controller) : List Deed → Ledger
  | [] => l
  | deed :: deeds => (l.enter c deed).keep (c.deed deed) deeds

structure Balanced (l : Ledger) (c : Controller) : Prop where
  numbered : l.issued.map (·.id) = List.range' 1 c.issued
  accounted : (l.cancelled ++ l.completed ++ c.inFlight.toList.map (·.id)).Perm
    (l.issued.map (·.id))
  latest : ∀ run, c.inFlight = some run → l.issued.getLast? = some run
  tokens : c.cancelled = l.cancelled

variable {l : Ledger} {c : Controller} {run : Run}

theorem balanced_new (e : Editor) (f : Feed) : Balanced {} { editor := e, feed := f } where
  numbered := rfl
  accounted := List.Perm.refl []
  latest := by intro run h; cases h
  tokens := rfl

theorem Balanced.edit (h : Balanced l c) (e : Editor) (f : Feed) :
    Balanced l { c with editor := e, feed := f } := ⟨h.numbered, h.accounted, h.latest, h.tokens⟩

theorem Balanced.observe (h : Balanced l c) (before after : Feed) :
    Balanced (l.observe before after) c := ⟨h.numbered, h.accounted, h.latest, h.tokens⟩

theorem Balanced.nodup_issued (h : Balanced l c) : (l.issued.map (·.id)).Nodup := by
  rw [h.numbered]
  exact List.nodup_range'

theorem Balanced.mem_issued (h : Balanced l c) (hrun : c.inFlight = some run) : run ∈ l.issued :=
  List.mem_of_getLast? (h.latest run hrun)

/-- An id stands for one run. -/
theorem Balanced.eq_of_id (h : Balanced l c) {a b : Run} (ha : a ∈ l.issued)
    (hb : b ∈ l.issued) (hid : a.id = b.id) : a = b :=
  List.inj_on_of_nodup_map h.nodup_issued ha hb hid

theorem Balanced.issue (h : Balanced l c) (hidle : c.inFlight = none) (e : Editor)
    (request : Request) :
    Balanced (l.issue ⟨c.issued + 1, request⟩)
      { c with
        editor := e, inFlight := some ⟨c.issued + 1, request⟩, issued := c.issued + 1 } where
  numbered := by
    simp only [Ledger.issue, List.map_append, h.numbered, List.map_cons, List.map_nil]
    rw [List.range'_concat, Nat.one_mul, Nat.add_comm 1]
  accounted := by
    have hacc := h.accounted
    rw [hidle] at hacc
    simp only [Option.toList_none, List.map_nil, List.append_nil] at hacc
    simpa [Ledger.issue] using hacc.append_right [c.issued + 1]
  latest := by
    intro run hrun
    obtain rfl := Option.some.inj hrun
    simp [Ledger.issue]
  tokens := h.tokens

theorem Balanced.cancel (h : Balanced l c) (hrun : c.inFlight = some run) :
    Balanced (l.cancel run.id)
      { c with inFlight := none, cancelled := c.cancelled ++ [run.id] } where
  numbered := h.numbered
  accounted := by
    have hacc := h.accounted
    rw [hrun] at hacc
    refine List.Perm.trans ?_ hacc
    simp only [Ledger.cancel, Option.toList_none, Option.toList_some, List.map_nil, List.map_cons,
      List.append_nil, List.append_assoc]
    exact List.perm_append_comm.append_left l.cancelled
  latest := by intro other hother; cases hother
  tokens := by rw [Ledger.cancel, h.tokens]

theorem Balanced.complete (h : Balanced l c) (hrun : c.inFlight = some run) (e : Editor) (f : Feed) :
    Balanced (l.complete run.id) { c with editor := e, feed := f, inFlight := none } where
  numbered := h.numbered
  accounted := by
    have hacc := h.accounted
    rw [hrun] at hacc
    simpa [Ledger.complete] using hacc
  latest := by intro other hother; cases hother
  tokens := h.tokens

theorem Balanced.toggle (h : Balanced l c) (op : Operation) :
    Balanced (l.record op (.directive c.toggle.1)) c.toggle.2 := by
  rcases c.toggle_cases with ⟨run, hrun, ht⟩ | ⟨-, -, ht⟩ | ⟨hidle, request, -, ht⟩
  · rw [ht]
    simpa only [record] using h.cancel hrun
  · rw [ht]
    simpa only [record] using h.edit _ _
  · rw [ht]
    simpa only [record] using h.issue hidle _ request

theorem balanced_step (h : Balanced l c) (op : Operation) :
    Balanced (l.record op (c.step op).1) (c.step op).2 := by
  cases op with
  | toggle => exact h.toggle .toggle
  | runQuery s => exact (h.edit _ _).toggle (.runQuery s)
  | appendAndRun s => exact (h.edit _ _).toggle (.appendAndRun s)
  | cancel =>
    simp only [Controller.step]
    rcases Option.eq_none_or_eq_some c.inFlight with hidle | ⟨run, hrun⟩
    · rw [Controller.cancel_of_idle hidle]
      exact h
    · rw [Controller.cancel_of_running hrun]
      exact h.cancel hrun
  | complete now id outcome =>
    simp only [Controller.step]
    rcases c.complete_cases now id outcome with ⟨-, hc⟩ | ⟨run, completion, e, hrun, rfl, hc⟩
    · rw [hc]
      exact h
    · rw [hc]
      exact h.complete hrun e _
  | setText s =>
    simp only [Controller.step, Controller.setText]
    split
    · exact h
    · exact h.edit _ _
  | exportLink query => exact h
  | insertText | focus | loadPreferences | savePreferences | registerActions => exact h.edit _ _
  | setMaxHeight | removeNotification | clearNotifications => exact h.edit _ _

theorem balanced_deed (h : Balanced l c) (deed : Deed) :
    Balanced (l.enter c deed) (c.deed deed) := by
  cases deed with
  | operation op => exact (balanced_step h op).observe _ _
  | act act => exact (h.edit _ _).observe _ _

theorem balanced_after (h : Balanced l c) (deeds : List Deed) :
    Balanced (l.keep c deeds) (c.after deeds) := by
  induction deeds generalizing l c with
  | nil => exact h
  | cons deed deeds ih => exact ih (balanced_deed h deed)

theorem issued_record (l : Ledger) (op : Operation) (answer : Answer) :
    l.issued <+: (l.record op answer).issued := by
  unfold record
  split
  case h_1 => exact List.prefix_append _ _
  all_goals exact List.prefix_refl _

theorem issued_keep (l : Ledger) (c : Controller) (deeds : List Deed) :
    l.issued <+: (l.keep c deeds).issued := by
  induction deeds generalizing l c with
  | nil => exact List.prefix_refl _
  | cons deed deeds ih =>
    refine List.IsPrefix.trans ?_ (ih _ _)
    cases deed with
    | operation op => exact issued_record l op _
    | act act => exact List.prefix_refl _

end Ledger

end CaretSql
