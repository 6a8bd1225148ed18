import CaretSql.Feed

/-! Eviction takes from the oldest end only, so whatever is added to a feed is its newest
notification afterwards, fitting or not. It is a loop that comes to an end, and what it leaves is the
longest beginning that fits the budget. -/

namespace CaretSql.Feed

open Notification (totalHeight)

variable {tall : List Notification → Prop} {budget : Nat} {ns kept other : List Notification}

theorem head?_evict {keep : Nat} (hkeep : 1 ≤ keep) (budget : Nat) (ns : List Notification) :
    (evict keep budget ns).head? = ns.head? := by
  fun_induction evict keep budget ns with
  | case1 ns h ih =>
    have hlong : 1 < ns.length := by omega
    rw [ih, List.head?_dropLast, if_pos hlong]
  | case2 ns h => rfl

theorem newest_add (n : Notification) (f : Feed) : (f.add n).state.notifications.head? = some n :=
  head?_evict (Nat.le_refl 1) _ _

theorem newest_notify (now : Nat) (kind : NotificationKind) (title : String)
    (detail : Option NotificationDetail) (f : Feed) :
    (f.notify now kind title detail).2.state.notifications.head? =
      some ⟨f.nextId now, kind, f.heights.forKind kind, title, detail⟩ := newest_add _ _

@[simp] theorem totalHeight_cons (n : Notification) (ns : List Notification) :
    totalHeight (n :: ns) = n.height + totalHeight ns := rfl

theorem totalHeight_mono (h : kept.Sublist ns) : totalHeight kept ≤ totalHeight ns := by
  induction h with
  | slnil => exact Nat.le_refl _
  | cons n h ih => exact Nat.le_trans ih (Nat.le_add_left _ _)
  | cons_cons n h ih => exact Nat.add_le_add_left ih _

theorem isPrefix_dropLast (h : other <+: ns) (hne : other ≠ ns) : other <+: ns.dropLast := by
  have hlt : other.length < ns.length :=
    Nat.lt_of_le_of_ne h.length_le fun heq => hne (h.eq_of_length heq)
  refine List.prefix_of_prefix_length_le h (List.dropLast_prefix _) ?_
  rw [List.length_dropLast]
  omega

/-- Drops the oldest, turn by turn, for as long as `tall` holds: a loop from `ns` that has come to its
end at `kept`. -/
inductive Drops (tall : List Notification → Prop) : List Notification → List Notification → Prop
  | done {ns : List Notification} (h : ¬ tall ns) : Drops tall ns ns
  | turn {ns kept : List Notification} (h : tall ns) (rest : Drops tall ns.dropLast kept) :
      Drops tall ns kept

structure Longest (budget : Nat) (ns kept : List Notification) : Prop where
  isPrefix : kept <+: ns
  fits : totalHeight kept ≤ budget
  longest : ∀ other, other <+: ns → totalHeight other ≤ budget → other.length ≤ kept.length

theorem drops_evict (keep budget : Nat) (ns : List Notification) :
    Drops (fun ns => keep < ns.length ∧ budget < totalHeight ns) ns (evict keep budget ns) := by
  fun_induction evict keep budget ns with
  | case1 ns h ih => exact .turn h ih
  | case2 ns h => exact .done h

theorem Drops.stopped (h : Drops tall ns kept) : ¬ tall kept := by
  induction h with
  | done h => exact h
  | turn h rest ih => exact ih

theorem Drops.isPrefix (h : Drops tall ns kept) : kept <+: ns := by
  induction h with
  | done h => exact List.prefix_refl _
  | turn h rest ih => exact ih.trans (List.dropLast_prefix _)

/-- Whatever was too much to keep was over the budget, so nothing longer fits than what is left. -/
theorem Drops.length_le (h : Drops tall ns kept) (htall : ∀ ns, tall ns → budget < totalHeight ns)
    (hbegins : other <+: ns) (hother : totalHeight other ≤ budget) : other.length ≤ kept.length := by
  induction h with
  | done h => exact hbegins.length_le
  | @turn ns kept h rest ih =>
    have hne : other ≠ ns := by
      rintro rfl
      exact absurd hother (Nat.not_le_of_lt (htall _ h))
    exact ih (isPrefix_dropLast hbegins hne)

theorem Drops.longest (h : Drops tall ns kept) (htall : ∀ ns, tall ns → budget < totalHeight ns)
    (hfits : totalHeight kept ≤ budget) : Longest budget ns kept where
  isPrefix := h.isPrefix
  fits := hfits
  longest := fun _ hbegins hother => h.length_le htall hbegins hother

end CaretSql.Feed
