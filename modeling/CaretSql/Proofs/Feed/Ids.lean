import CaretSql.Proofs.Feed.Operation

/-! The ids of notifications. Whatever the clock shows, a feed hands out an id that is larger than
all ids it has seen, be their notifications gone or not; only the last word leaves none to hand out. A
feed that hands out all of its ids is therefore in their order, and an id stands for one notification. -/

namespace CaretSql.Feed

def ids (f : Feed) : List Operation → List Nat
  | [] => []
  | op :: ops => ((f.incoming? op).map (·.id)).toList ++ (f.perform op).ids ops

variable {f : Feed} {op : Operation} {ops : List Operation} {seen : List Nat}
  {ns newer older : List Notification} {n : Notification}

/-- The last id is the largest that the feed has seen. -/
structure Tracks (seen : List Nat) (f : Feed) : Prop where
  bounds : ∀ id ∈ seen, id ≤ f.lastId
  latest : f.lastId = 0 ∨ f.lastId ∈ seen
  held : ∀ n ∈ f.state.notifications, n.id ∈ seen

theorem tracks_empty (maxHeight : Nat) (heights : HeightEstimates) :
    Tracks [] (empty maxHeight heights) := ⟨nofun, Or.inl rfl, nofun⟩

theorem lastId_lt_nextId (now : Nat) (f : Feed) : f.lastId < f.nextId now :=
  Nat.lt_of_succ_le (Nat.le_max_right _ _)

theorem Tracks.lt_nextId (h : Tracks seen f) (now : Nat) : ∀ id ∈ seen, id < f.nextId now :=
  fun id hid => Nat.lt_of_le_of_lt (h.bounds id hid) (lastId_lt_nextId now f)

theorem Tracks.checkedNotify_eq (h : Tracks seen f) (hsmall : ∀ id ∈ seen, id < wordSize - 1)
    (now : Nat) (kind : NotificationKind) (title : String) (detail : Option NotificationDetail) :
    f.checkedNotify now kind title detail = .ok (f.notify now kind title detail) := by
  apply if_pos
  rcases h.latest with hzero | hmem
  · rw [hzero]
    decide
  · have := hsmall _ hmem
    omega

theorem lastId_of_none (h : f.incoming? op = none) : (f.perform op).lastId = f.lastId := by
  cases op with
  | add | notify => cases h
  | setMaxHeight | remove | clear => rfl

theorem lastId_of_incoming (hin : f.incoming? op = some n) :
    (f.perform op).lastId = max f.lastId n.id := by
  cases op with
  | add m =>
    obtain rfl := Option.some.inj hin
    rfl
  | notify now kind title detail =>
    obtain rfl := Option.some.inj hin
    have hlt := lastId_lt_nextId now f
    calc max (f.nextId now) (f.nextId now) = f.nextId now := Nat.max_self _
      _ = max f.lastId (f.nextId now) := (Nat.max_eq_right (Nat.le_of_lt hlt)).symm
  | setMaxHeight | remove | clear => cases hin

theorem Tracks.perform (h : Tracks seen f) (op : Operation) :
    Tracks (seen ++ ((f.incoming? op).map (·.id)).toList) (f.perform op) := by
  cases hin : f.incoming? op with
  | none =>
    have hlast := lastId_of_none hin
    rw [Option.map_none, Option.toList_none, List.append_nil]
    exact ⟨hlast ▸ h.bounds, hlast ▸ h.latest, fun n hn => h.held n ((perform_sublist hin).subset hn)⟩
  | some n =>
    have hlast := lastId_of_incoming hin
    rw [Option.map_some, Option.toList_some]
    constructor
    case bounds =>
      intro id hid
      rw [hlast]
      rcases List.mem_append.mp hid with hid | hid
      · exact Nat.le_trans (h.bounds id hid) (Nat.le_max_left _ _)
      · rw [List.mem_singleton.mp hid]
        exact Nat.le_max_right _ _
    case latest =>
      rw [hlast]
      rcases Nat.le_total n.id f.lastId with hle | hle
      · rw [Nat.max_eq_left hle]
        exact h.latest.imp_right (List.mem_append_left _)
      · rw [Nat.max_eq_right hle]
        exact Or.inr (List.mem_append_right _ (List.mem_singleton_self _))
    case held =>
      intro m hm
      rw [perform_of_incoming hin] at hm
      rcases List.mem_cons.mp ((drops_evict 1 _ _).isPrefix.subset hm) with rfl | hm
      · exact List.mem_append_right _ (List.mem_singleton_self _)
      · exact List.mem_append_left _ (h.held m hm)

theorem Tracks.after (h : Tracks seen f) (ops : List Operation) :
    Tracks (seen ++ f.ids ops) (f.after ops) := by
  induction ops generalizing f seen with
  | nil =>
    rw [ids, List.append_nil]
    exact h
  | cons op ops ih =>
    rw [ids, ← List.append_assoc]
    exact ih (h.perform op)

def Descending (ns : List Notification) : Prop := (ns.map (·.id)).Pairwise (· > ·)

/-- An id of the feed's own is larger than those below it. -/
theorem Tracks.descending (h : Tracks seen f)
    (hdown : Descending f.state.notifications) (hop : op.adds = false) :
    Descending (f.perform op).state.notifications := by
  cases hin : f.incoming? op with
  | none => exact hdown.sublist ((perform_sublist hin).map _)
  | some n =>
    have hnew : Descending (n :: f.state.notifications) := by
      refine List.pairwise_cons.mpr ⟨?_, hdown⟩
      intro id hid
      obtain ⟨m, hm, rfl⟩ := List.mem_map.mp hid
      cases op with
      | add => cases hop
      | notify now kind title detail =>
        obtain rfl := Option.some.inj hin
        exact h.lt_nextId now _ (h.held m hm)
      | setMaxHeight | remove | clear => cases hin
    rw [perform_of_incoming hin]
    exact hnew.sublist ((drops_evict 1 _ _).isPrefix.sublist.map _)

theorem Tracks.descending_after (h : Tracks seen f)
    (hdown : Descending f.state.notifications) (ops : List Operation)
    (hops : ∀ op ∈ ops, op.adds = false) : Descending (f.after ops).state.notifications := by
  induction ops generalizing f seen with
  | nil => exact hdown
  | cons op ops ih =>
    exact ih (h.perform op) (h.descending hdown (hops op List.mem_cons_self))
      fun op' hop' => hops op' (List.mem_cons_of_mem _ hop')

/-- Whatever the clock shows, a notification with an id of the feed's own is new. -/
theorem Tracks.arrivals_notify (h : Tracks seen f) (now : Nat) (kind : NotificationKind)
    (title : String) (detail : Option NotificationDetail) :
    arrivals f (f.notify now kind title detail).2 =
      [⟨f.nextId now, kind, f.heights.forKind kind, title, detail⟩] := by
  refine arrivals_of_incoming (f := f) (show f.incoming? (.notify now kind title detail) = _ from rfl) fun hmem => ?_
  exact Nat.lt_irrefl _ (h.lt_nextId now _ (h.held _ hmem))

theorem filter_ne {id : Nat} (h : ∀ m ∈ ns, m.id ≠ id) : ns.filter (·.id != id) = ns :=
  List.filter_eq_self.mpr fun m hm => by simpa using h m hm

/-- Of notifications in order, at most one goes by an id. -/
theorem Descending.filter (h : Descending (newer ++ n :: older)) :
    (newer ++ n :: older).filter (·.id != n.id) = newer ++ older := by
  unfold Descending at h
  rw [List.map_append, List.map_cons, List.pairwise_append, List.pairwise_cons] at h
  obtain ⟨-, ⟨holder, -⟩, hnewer⟩ := h
  have hnewer' : ∀ m ∈ newer, m.id ≠ n.id := fun m hm =>
    Nat.ne_of_gt (hnewer _ (List.mem_map_of_mem hm) _ List.mem_cons_self)
  have holder' : ∀ m ∈ older, m.id ≠ n.id := fun m hm =>
    Nat.ne_of_lt (holder _ (List.mem_map_of_mem hm))
  rw [List.filter_append, List.filter_cons_of_neg (by simp), filter_ne hnewer', filter_ne holder']

structure KeepsIds (seen : List Nat) (ops : List Operation) (f : Feed) : Prop where
  /-- whatever the clock shows, there is a next id, it is new, and the newest notification has it -/
  fresh : ∀ now kind title detail,
    f.checkedNotify now kind title detail = .ok (f.notify now kind title detail) ∧
    (∀ id ∈ seen, id < (f.notify now kind title detail).1) ∧
    (f.notify now kind title detail).2.state.notifications.head?.map (·.id) =
      some (f.notify now kind title detail).1
  descending : (∀ op ∈ ops, op.adds = false) →
    (f.state.notifications.map (·.id)).Pairwise (· > ·)
  /-- one notification goes and all others stay as they are, or none goes -/
  removed : (∀ op ∈ ops, op.adds = false) → ∀ id,
    (∀ n ∈ f.state.notifications, n.id ≠ id) ∧ (f.remove id).state = f.state ∨
    ∃ newer n older, f.state.notifications = newer ++ n :: older ∧ n.id = id ∧
      (f.remove id).state = ⟨newer ++ older, f.state.maxHeight⟩

theorem remove_of_descending (h : Descending f.state.notifications) (id : Nat) :
    (∀ n ∈ f.state.notifications, n.id ≠ id) ∧ (f.remove id).state = f.state ∨
    ∃ newer n older, f.state.notifications = newer ++ n :: older ∧ n.id = id ∧
      (f.remove id).state = ⟨newer ++ older, f.state.maxHeight⟩ := by
  by_cases hmem : ∃ n ∈ f.state.notifications, n.id = id
  · obtain ⟨n, hn, rfl⟩ := hmem
    obtain ⟨newer, older, heq⟩ := List.append_of_mem hn
    refine Or.inr ⟨newer, n, older, heq, rfl, ?_⟩
    rw [heq] at h
    simp only [remove, heq, h.filter]
  · have hnone : ∀ n ∈ f.state.notifications, n.id ≠ id := fun n hn hid => hmem ⟨n, hn, hid⟩
    refine Or.inl ⟨hnone, ?_⟩
    unfold remove
    rw [filter_ne hnone]

/-- Whatever is done to a new feed and whatever the clock shows, the ids that it hands out go up, as
long as none has come to the last word. -/
theorem feed_ids_grow (maxHeight : Nat) (heights : HeightEstimates) {ops : List Operation}
    (hsmall : ∀ id ∈ (empty maxHeight heights).ids ops, id < wordSize - 1) :
    KeepsIds ((empty maxHeight heights).ids ops) ops ((empty maxHeight heights).after ops) := by
  have htracks := (tracks_empty maxHeight heights).after ops
  have hdescending := (tracks_empty maxHeight heights).descending_after List.Pairwise.nil ops
  constructor
  case fresh =>
    intro now kind title detail
    refine ⟨htracks.checkedNotify_eq hsmall now kind title detail, htracks.lt_nextId now, ?_⟩
    unfold notify
    rw [newest_add]
    rfl
  case descending => exact hdescending
  case removed => exact fun hops id => remove_of_descending (hdescending hops) id

/-- An id from outside, a budget that leaves nothing, and a clock that runs backwards. -/
theorem feed_ids_grow_late_clock :
    let ops : List Operation :=
      [.notify 1000 .info "a" none, .add ⟨5000, .error, 70, "b", none⟩, .setMaxHeight 0, .clear]
    let f := (empty 500 ⟨145, 70⟩).after ops
    (∀ id ∈ (empty 500 ⟨145, 70⟩).ids ops, id < wordSize - 1) ∧
      (f.notify 3 .success "c" none).1 = 5001 ∧
      ∀ id ∈ [1000, 5000], id < (f.notify 3 .success "c" none).1 := by
  intro ops f
  have hsmall : ∀ id ∈ (empty 500 ⟨145, 70⟩).ids ops, id < wordSize - 1 := by decide +kernel
  exact ⟨hsmall, by decide +kernel, ((feed_ids_grow 500 ⟨145, 70⟩ hsmall).fresh 3 _ _ _).2.1⟩

end CaretSql.Feed
