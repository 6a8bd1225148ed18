import CaretSql.Proofs.Feed.Evict

/-! What can be done to a feed, as data. Two operations put a notification on top: one that comes
with an id and a height of its own, and one that is given both by the feed. -/

namespace CaretSql.Feed

inductive Operation
  | add (n : Notification)
  | notify (now : Nat) (kind : NotificationKind) (title : String)
    (detail : Option NotificationDetail)
  | setMaxHeight (height : Nat)
  | remove (id : Nat)
  | clear

def Operation.adds : Operation → Bool
  | .add _ => true
  | _ => false

def perform (f : Feed) : Operation → Feed
  | .add n => f.add n
  | .notify now kind title detail => (f.notify now kind title detail).2
  | .setMaxHeight height => f.setMaxHeight height
  | .remove id => f.remove id
  | .clear => f.clear

def after (f : Feed) (ops : List Operation) : Feed := ops.foldl perform f

def incoming? (f : Feed) : Operation → Option Notification
  | .add n => some n
  | .notify now kind title detail =>
    some ⟨f.nextId now, kind, f.heights.forKind kind, title, detail⟩
  | .setMaxHeight _ | .remove _ | .clear => none

/-- the notifications that a feed has and did not have before -/
def arrivals (before after : Feed) : List Notification :=
  after.state.notifications.filter (· ∉ before.state.notifications)

variable {f g : Feed} {op : Operation} {n : Notification}

/-- Whichever way a notification comes in, it is put on top and the rest cut to the budget. -/
theorem perform_of_incoming (h : f.incoming? op = some n) :
    (f.perform op).state =
      ⟨evict 1 f.state.maxHeight (n :: f.state.notifications), f.state.maxHeight⟩ := by
  cases op with
  | add m =>
    obtain rfl := Option.some.inj h
    rfl
  | notify now kind title detail =>
    obtain rfl := Option.some.inj h
    rfl
  | setMaxHeight | remove | clear => cases h

theorem perform_sublist (h : f.incoming? op = none) :
    (f.perform op).state.notifications.Sublist f.state.notifications := by
  cases op with
  | add | notify => cases h
  | setMaxHeight height => exact (drops_evict 0 height _).isPrefix.sublist
  | remove id => exact List.filter_sublist
  | clear => exact List.nil_sublist _

theorem arrivals_of_sublist (h : g.state.notifications.Sublist f.state.notifications) :
    arrivals f g = [] := by
  refine List.filter_eq_nil_iff.mpr fun n hn => ?_
  simpa using h.subset hn

theorem arrivals_self (f : Feed) : arrivals f f = [] := arrivals_of_sublist (List.Sublist.refl _)

/-- Of what comes in, only what was not there before is new. -/
theorem arrivals_of_incoming (h : f.incoming? op = some n) (hnew : n ∉ f.state.notifications) :
    arrivals f (f.perform op) = [n] := by
  rw [arrivals, perform_of_incoming h]
  have hhead := head?_evict (Nat.le_refl 1) f.state.maxHeight (n :: f.state.notifications)
  have hkept := (drops_evict 1 f.state.maxHeight (n :: f.state.notifications)).isPrefix
  cases hevict : evict 1 f.state.maxHeight (n :: f.state.notifications) with
  | nil =>
    rw [hevict] at hhead
    cases hhead
  | cons m kept =>
    rw [hevict, List.cons_prefix_cons] at hkept
    obtain ⟨rfl, hkept⟩ := hkept
    rw [List.filter_cons_of_pos (by simpa using hnew)]
    refine congrArg (m :: ·) (List.filter_eq_nil_iff.mpr fun x hx => ?_)
    simpa using hkept.subset hx

theorem heights_perform (f : Feed) (op : Operation) : (f.perform op).heights = f.heights := by
  cases op <;> rfl

end CaretSql.Feed
