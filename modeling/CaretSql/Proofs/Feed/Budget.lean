import CaretSql.Proofs.Feed.Operation

/-! The budget of a feed. A notification that comes in stays with as much of the feed below it as
fits, a new budget leaves as much of the feed as fits, and nothing else makes a feed longer. Hence
only a notification on its own can exceed the budget. -/

namespace CaretSql

open Notification (totalHeight)

def HeightEstimates.least (h : HeightEstimates) : Nat := min h.success h.plain

theorem HeightEstimates.least_le_forKind (h : HeightEstimates) (kind : NotificationKind) :
    h.least ≤ h.forKind kind := by
  cases kind with
  | success => exact Nat.min_le_left _ _
  | error | info => exact Nat.min_le_right _ _

namespace Feed

variable {f : Feed} {op : Operation} {n : Notification} {ns : List Notification}
  {budget : Nat}

structure KeepsBudget (heights : HeightEstimates) (ops : List Operation) (f : Feed) : Prop where
  /-- what comes in stays with as much below it as fits, or on its own if even that does not fit;
  the loop that drops the rest comes to an end -/
  added : ∀ op n, f.incoming? op = some n → ∃ kept,
    (f.perform op).state = ⟨kept, f.state.maxHeight⟩ ∧
    Drops (fun ns => 1 < ns.length ∧ f.state.maxHeight < totalHeight ns)
      (n :: f.state.notifications) kept ∧
    (n.height ≤ f.state.maxHeight →
      Longest f.state.maxHeight (n :: f.state.notifications) kept) ∧
    (f.state.maxHeight < n.height → kept = [n])
  /-- a new budget keeps as much as fits, be it nothing, by a loop that comes to an end -/
  resized : ∀ height, ∃ kept,
    (f.setMaxHeight height).state = ⟨kept, height⟩ ∧
    Drops (fun ns => height < totalHeight ns) f.state.notifications kept ∧
    Longest height f.state.notifications kept
  fits : 2 ≤ f.state.notifications.length → f.state.totalHeight ≤ f.state.maxHeight
  /-- with estimates that a configuration can have, the budget bounds how many the feed holds -/
  count : (∀ op ∈ ops, op.adds = false) → 0 < heights.success → 0 < heights.plain →
    f.state.notifications.length ≤
      max 1 (f.state.maxHeight / min heights.success heights.plain)

/-- Below a notification that fits, as much is kept as fits with it. -/
theorem longest_evict (h : n.height ≤ budget) (ns : List Notification) :
    Longest budget (n :: ns) (evict 1 budget (n :: ns)) := by
  have hdrops := drops_evict 1 budget (n :: ns)
  refine hdrops.longest (fun _ hover => hover.2) ?_
  by_cases hlong : 1 < (evict 1 budget (n :: ns)).length
  · exact Nat.le_of_not_lt fun hover => hdrops.stopped ⟨hlong, hover⟩
  · have halone : evict 1 budget (n :: ns) <+: [n] :=
      List.prefix_of_prefix_length_le hdrops.isPrefix (List.prefix_append [n] ns)
        (Nat.le_of_not_lt hlong)
    exact Nat.le_trans (totalHeight_mono halone.sublist) h

/-- A notification that does not fit is kept on its own. -/
theorem evict_of_tall (h : budget < n.height) (ns : List Notification) :
    evict 1 budget (n :: ns) = [n] := by
  have hnewest := head?_evict (Nat.le_refl 1) budget (n :: ns)
  have hstopped := (drops_evict 1 budget (n :: ns)).stopped
  cases hkept : evict 1 budget (n :: ns) with
  | nil =>
    rw [hkept] at hnewest
    cases hnewest
  | cons m older =>
    rw [hkept] at hnewest hstopped
    obtain rfl := Option.some.inj hnewest
    have hover : budget < totalHeight (m :: older) := Nat.lt_of_lt_of_le h (Nat.le_add_right _ _)
    have hshort : ¬ 1 < (m :: older).length := fun hlong => hstopped ⟨hlong, hover⟩
    have holder : older = [] := by simpa using hshort
    rw [holder]

/-- A feed of no notification never exceeds a budget, so the loop under a new one needs no floor. -/
theorem drops_setMaxHeight (height : Nat) (ns : List Notification) :
    Drops (fun ns => height < totalHeight ns) ns (evict 0 height ns) := by
  have hfloor : (fun ns : List Notification => 0 < ns.length ∧ height < totalHeight ns) =
      fun ns => height < totalHeight ns := by
    funext ns
    refine propext ⟨And.right, fun hover => ⟨?_, hover⟩⟩
    cases ns with
    | nil => cases hover
    | cons n ns => exact Nat.succ_pos _
  rw [← hfloor]
  exact drops_evict 0 height ns

/-- Only one notification on its own exceeds the budget. -/
def Fits (f : Feed) : Prop :=
  2 ≤ f.state.notifications.length → f.state.totalHeight ≤ f.state.maxHeight

theorem fits_empty (maxHeight : Nat) (heights : HeightEstimates) : (empty maxHeight heights).Fits :=
  fun _ => Nat.zero_le _

theorem Fits.perform (h : f.Fits) (op : Operation) : (f.perform op).Fits := by
  intro hlong
  cases hin : f.incoming? op with
  | some n =>
    have hstopped := (drops_evict 1 f.state.maxHeight (n :: f.state.notifications)).stopped
    rw [perform_of_incoming hin] at hlong ⊢
    exact Nat.le_of_not_lt fun hover => hstopped ⟨hlong, hover⟩
  | none =>
    have hkept := perform_sublist hin
    cases op with
    | add | notify => cases hin
    | setMaxHeight height => exact Nat.le_of_not_lt (drops_setMaxHeight height _).stopped
    | remove | clear =>
      exact Nat.le_trans (totalHeight_mono hkept) (h (Nat.le_trans hlong hkept.length_le))

/-- The feed gives nothing less than its least estimate. -/
def Estimated (f : Feed) : Prop := ∀ n ∈ f.state.notifications, f.heights.least ≤ n.height

theorem estimated_empty (maxHeight : Nat) (heights : HeightEstimates) :
    (empty maxHeight heights).Estimated := nofun

theorem Estimated.perform (h : f.Estimated) (hop : op.adds = false) : (f.perform op).Estimated := by
  intro m hm
  rw [heights_perform]
  cases hin : f.incoming? op with
  | none => exact h m ((perform_sublist hin).subset hm)
  | some n =>
    rw [perform_of_incoming hin] at hm
    rcases List.mem_cons.mp ((drops_evict 1 f.state.maxHeight _).isPrefix.subset hm) with rfl | hm
    · cases op with
      | add => cases hop
      | notify now kind title detail =>
        obtain rfl := Option.some.inj hin
        exact f.heights.least_le_forKind kind
      | setMaxHeight | remove | clear => cases hin
    · exact h m hm

theorem length_mul_le {least : Nat} (h : ∀ n ∈ ns, least ≤ n.height) :
    ns.length * least ≤ totalHeight ns := by
  induction ns with
  | nil => simp
  | cons n ns ih =>
    have hn := h n List.mem_cons_self
    have hns := ih fun m hm => h m (List.mem_cons_of_mem _ hm)
    rw [List.length_cons, Nat.succ_mul, totalHeight_cons]
    omega

theorem heights_after (f : Feed) (ops : List Operation) : (f.after ops).heights = f.heights := by
  induction ops generalizing f with
  | nil => rfl
  | cons op ops ih => exact (ih (f.perform op)).trans (heights_perform f op)

theorem Fits.after (h : f.Fits) (ops : List Operation) : (f.after ops).Fits := by
  induction ops generalizing f with
  | nil => exact h
  | cons op ops ih => exact ih (h.perform op)

theorem Estimated.after {ops : List Operation} (h : f.Estimated)
    (hops : ∀ op ∈ ops, op.adds = false) : (f.after ops).Estimated := by
  induction ops generalizing f with
  | nil => exact h
  | cons op ops ih =>
    exact ih (h.perform (hops op List.mem_cons_self)) fun op' hop' =>
      hops op' (List.mem_cons_of_mem _ hop')

theorem Fits.length_le (h : f.Fits) (hestimated : f.Estimated) (hpos : 0 < f.heights.least) :
    f.state.notifications.length ≤ max 1 (f.state.maxHeight / f.heights.least) := by
  by_cases hlong : 2 ≤ f.state.notifications.length
  · have hroom := Nat.le_trans (length_mul_le hestimated) (h hlong)
    exact Nat.le_trans ((Nat.le_div_iff_mul_le hpos).mpr hroom) (Nat.le_max_right _ _)
  · exact Nat.le_trans (by omega) (Nat.le_max_left _ _)

/-- Whatever is done to a new feed, in whichever order and under whichever budgets, it evicts the
oldest and no more than it must. -/
theorem feed_keeps_budget (maxHeight : Nat) (heights : HeightEstimates) (ops : List Operation) :
    KeepsBudget heights ops ((empty maxHeight heights).after ops) where
  added := by
    intro op n hin
    refine ⟨_, perform_of_incoming hin, drops_evict _ _ _, fun hn => longest_evict hn _,
      fun htall => evict_of_tall htall _⟩
  resized := by
    intro height
    have hdrops := drops_setMaxHeight height ((empty maxHeight heights).after ops).state.notifications
    exact ⟨_, rfl, hdrops, hdrops.longest (fun _ hover => hover) (Nat.le_of_not_lt hdrops.stopped)⟩
  fits := (fits_empty maxHeight heights).after ops
  count := by
    intro hops hsuccess hplain
    have hheights := heights_after (empty maxHeight heights) ops
    have hestimated := (estimated_empty maxHeight heights).after hops
    have hbound := ((fits_empty maxHeight heights).after ops).length_le hestimated (by
      rw [hheights]
      exact Nat.lt_min.mpr ⟨hsuccess, hplain⟩)
    rwa [hheights] at hbound

/-- Three notifications, of which two fit, and then one that is too tall for the budget itself. -/
theorem feed_keeps_budget_of_two :
    let f := (empty 150 ⟨145, 70⟩).after
      [.notify 5 .info "a" none, .notify 5 .error "b" none, .notify 2 .info "c" none]
    let tall : Notification := ⟨9, .info, 151, "d", none⟩
    f.state.notifications.length ≤ 2 ∧ (f.perform (.add tall)).state = ⟨[tall], 150⟩ := by
  intro f tall
  have h := feed_keeps_budget 150 ⟨145, 70⟩
    [.notify 5 .info "a" none, .notify 5 .error "b" none, .notify 2 .info "c" none]
  have hbudget : f.state.maxHeight = 150 := rfl
  constructor
  · exact h.count (by simp [Operation.adds]) (by decide) (by decide)
  · obtain ⟨kept, hstate, -, -, halone⟩ := h.added (.add tall) tall rfl
    rw [hstate, halone (by decide)]
    exact congrArg _ hbudget

end Feed

end CaretSql
