import CaretSql.Proofs.Request.ErrorMapping
import CaretSql.Proofs.Request.Sweep

/-! Running again after a failure. A failure leaves the caret in the statement that failed, and so
the next run sends that statement again. The one exception is a failure at the very start of a
statement that begins right behind a delimiter: the place behind a delimiter belongs to the
statement that the delimiter closes. -/

namespace CaretSql

namespace Request

variable {d : Document} {c i : Nat} {region earlier : Nat × Nat} {p : Position} {r : Request}

def closedAt? (d : Document) (c : Nat) : Option Request :=
  (d.regions.find? fun region => region.2 + 1 = c).bind (statement? d)

theorem region_le (hget : d.regions[i]? = some region) : region.1 ≤ region.2 :=
  ((ends_delimiters d).region_bounds (List.mem_of_getElem? hget)).2.1

theorem eq_of_end_mem (hget : d.regions[i]? = some region) (hmem : earlier ∈ d.regions)
    (hstart : region.1 ≤ earlier.2) (hstop : earlier.2 ≤ region.2) : earlier = region := by
  obtain ⟨j, hj⟩ := List.getElem?_of_mem hmem
  have hle := region_le hj
  rcases Nat.lt_trichotomy j i with hlt | rfl | hlt
  · have := regions_ordered hj hget hlt
    omega
  · exact Option.some.inj (hj.symm.trans hget)
  · have := regions_ordered hget hj hlt
    omega

theorem closedAt?_end (hget : d.regions[i]? = some region) :
    closedAt? d (region.2 + 1) = statement? d region := by
  have hfind : (d.regions.find? fun earlier => earlier.2 + 1 = region.2 + 1) = some region := by
    cases hf : d.regions.find? fun earlier => earlier.2 + 1 = region.2 + 1 with
    | none =>
      have := List.find?_eq_none.mp hf region (List.mem_of_getElem? hget)
      simp at this
    | some earlier =>
      have hend : earlier.2 = region.2 := by simpa using List.find?_some hf
      have hle := region_le hget
      rw [eq_of_end_mem hget (List.mem_of_find?_eq_some hf) (by omega) (by omega)]
  rw [closedAt?, hfind]
  rfl

theorem closedAt?_of_ne (h : ∀ earlier ∈ d.regions, earlier.2 + 1 ≠ c) : closedAt? d c = none := by
  have hfind : (d.regions.find? fun earlier => earlier.2 + 1 = c) = none := by
    rw [List.find?_eq_none]
    intro earlier hmem hend
    exact h earlier hmem (by simpa using hend)
  rw [closedAt?, hfind]
  rfl

/-- No delimiter stands right before an offset behind the start of a region. -/
theorem closedAt?_inside (hget : d.regions[i]? = some region) (hstart : region.1 < c)
    (hstop : c ≤ region.2) : closedAt? d c = none := by
  apply closedAt?_of_ne
  intro earlier hmem hend
  obtain rfl := eq_of_end_mem hget hmem (by omega) (by omega)
  omega

theorem closedAt?_zero (d : Document) : closedAt? d 0 = none :=
  closedAt?_of_ne fun earlier _ => Nat.succ_ne_zero earlier.2

/-- A caret right behind a delimiter is still in the region that it closes. -/
theorem reached_behind (hget : d.regions[i]? = some region) (hlt : i + 1 < d.regions.length) :
    Reached d.regions (region.2 + 1) i region where
  get := hget
  reach := by rw [if_pos hlt]
  first := by
    intro j hj earlier hearlier
    have := regions_ordered hearlier hget hj
    have := region_le hget
    omega

/-- A caret in the region of a statement runs it, unless it stands right behind the delimiter of a
statement before. -/
theorem ofCaret?_inside (hget : d.regions[i]? = some region)
    (hr : statement? d region = some r) (hstart : region.1 ≤ d.offsetOf p)
    (hstop : d.offsetOf p ≤ region.2) :
    ofCaret? d p = (closedAt? d (d.offsetOf p)).or (some r) := by
  rcases Nat.eq_or_lt_of_le hstart with heq | hlt
  · cases i with
    | zero =>
      have hzero : region.1 = 0 := regions_head hget
      have hreached : Reached d.regions (d.offsetOf p) 0 region := by
        refine ⟨hget, ?_, fun j hj => absurd hj (Nat.not_lt_zero j)⟩
        split <;> omega
      rw [ofCaret?_reached hreached, hr, ← heq, hzero, closedAt?_zero]
      rfl
    | succ i =>
      have hlen := (List.getElem?_eq_some_iff.mp hget).1
      obtain ⟨earlier, hearlier⟩ : ∃ earlier, d.regions[i]? = some earlier :=
        ⟨_, List.getElem?_eq_getElem (by omega)⟩
      have hnext : d.offsetOf p = earlier.2 + 1 := heq.symm.trans (regions_next hearlier hget)
      have hreached : Reached d.regions (d.offsetOf p) i earlier := by
        rw [hnext]
        exact reached_behind hearlier hlen
      rw [ofCaret?_reached hreached, if_pos hnext, hget, hnext, closedAt?_end hearlier,
        Option.bind_some, hr]
  · rw [ofCaret?_reached (reached_inside hget hlt hstop), hr, closedAt?_inside hget hlt hstop]
    rfl

theorem query_trimmed_bounds (hstop : region.2 ≤ d.length)
    (h : Live d (Lexemes.ofText d.chars) region.1 region.2) :
    0 < (trimmed d region).query.length ∧
      leadEnd d region.1 region.2 + (trimmed d region).query.length ≤ region.2 := by
  have hlen := congrArg List.length (Character.trim_split h.exists_mem)
  have hpos := List.length_pos_iff.mpr (Character.trim_ne_nil h.exists_mem)
  rw [List.length_append, List.length_append, Document.length_slice, Nat.min_eq_left hstop] at hlen
  refine ⟨hpos, ?_⟩
  change leadEnd d region.1 region.2 + (Character.trim (d.slice region.1 region.2)).length ≤ region.2
  unfold leadEnd
  omega

/-- A caret anywhere in a statement runs it again, its very start perhaps apart. -/
theorem extract?_positionAt (h : extract? d (.caret p) = some r) (k : Nat) :
    extract? d (.caret (r.positionAt k)) =
      if k = 0 then (closedAt? d (d.offsetOf r.origin)).or (some r) else some r := by
  obtain ⟨i, -, hi⟩ := exists_picks h
  obtain ⟨region, hget, hlive, rfl⟩ := bind_statement?_eq_some hi
  have hstop := ((ends_delimiters d).region_bounds (List.mem_of_getElem? hget)).2.2
  obtain ⟨hpos, hend⟩ := query_trimmed_bounds hstop hlive
  have hlead : region.1 ≤ leadEnd d region.1 region.2 := Nat.le_add_right _ _
  have hoffset := offsetOf_positionAt h k
  rw [offsetOf_origin_trimmed hlive] at hoffset
  have hrun : extract? d (.caret ((trimmed d region).positionAt k)) = _ :=
    ofCaret?_inside hget (if_pos hlive) (by omega) (by omega)
  rw [hrun, hoffset, offsetOf_origin_trimmed hlive]
  split
  · next hk => rw [hk, Nat.zero_min, Nat.add_zero]
  · next hk =>
    rw [closedAt?_inside hget (by omega) (by omega)]
    rfl

end Request

namespace Controller

variable {c : Controller} {run : Run} {p : Position}

/-- After a failure a toggle runs what a caret at the place of the failure runs. -/
theorem toggle_failed (h : c.Issued run) (now : Nat) (failure : EngineFailure) {request : Request}
    (hnext : Request.extract? c.editor.document (.caret (run.request.positionAt failure.offset)) =
      some request) :
    (c.complete now run.id (.error failure)).2.toggle.1 = .execute ⟨run.id + 1, request⟩ := by
  have hcaret : c.editor.document.clamp
      (ErrorLocation.locate c.editor.document run.request failure.offset).position =
        run.request.positionAt failure.offset := by
    have hle := Request.offsetOf_origin_add_length_le h.request
    rw [Request.locate_position h.request, Request.positionAt_eq h.request]
    exact c.editor.document.clamp_positionOf (by omega)
  rw [complete_of_error h.inFlight, toggle_of_idle rfl, start_of_some, h.latest]
  change Request.extract? c.editor.document (.caret (c.editor.document.clamp _)) = some request
  rw [hcaret]
  exact hnext

end Controller

open Request

/-- After a failure the same statement runs again. From wherever in a statement a failure puts the
caret the caret runs it, and so the next toggle issues the same request; only behind the delimiter
of another statement, where the failing one begins at once, a failure at its start leads to that
other statement. -/
theorem failed_statement_runs_again :
    (∀ (d : Document) (p : Position) (r : Request), extract? d (.caret p) = some r →
      (∀ k, extract? d (.caret (r.positionAt k)) =
        if k = 0 then (closedAt? d (d.offsetOf r.origin)).or (some r) else some r) ∧
      extract? d (.caret r.origin) = (closedAt? d (d.offsetOf r.origin)).or (some r)) ∧
    ∀ (c : Controller) (op : Controller.Operation) (run : Run) (p : Position) (now : Nat)
      (failure : EngineFailure) (issued : Controller),
      c.step op = (.directive (.execute run), issued) → issued.editor.anchor = .caret p →
      (issued.complete now run.id (.error failure)).2.toggle.1 = .execute ⟨run.id + 1,
        if failure.offset = 0 then
          (closedAt? issued.editor.document
            (issued.editor.document.offsetOf run.request.origin)).getD run.request
        else run.request⟩ := by
  refine ⟨?_, ?_⟩
  · intro d p r h
    have horigin : r.positionAt 0 = r.origin := rfl
    refine ⟨extract?_positionAt h, ?_⟩
    rw [← horigin, extract?_positionAt h, if_pos rfl, horigin]
  · intro c op run p now failure issued hstep hcaret
    have hissued : (c.step op).2.Issued run := Controller.issued_step (congrArg Prod.fst hstep)
    rw [hstep] at hissued
    apply Controller.toggle_failed hissued
    have hrequest := hissued.request
    rw [hcaret] at hrequest
    rw [extract?_positionAt hrequest]
    split
    · cases closedAt? _ _ <;> rfl
    · rfl

/-- In `1;2 3` the second statement, failing in its middle, runs again; from its start, right behind
the delimiter, the first one runs. -/
theorem failed_statement_runs_again_second :
    let d : Document := ⟨"1;2 3".toList⟩
    let r : Request := ⟨"2 3".toList, 1, 2⟩
    let c : Controller := { editor := { text := d.chars, caret := ⟨1, 4⟩ }, feed := .empty 500 ⟨145, 70⟩ }
    let issued := (c.step .toggle).2
    extract? d (.caret ⟨1, 4⟩) = some r ∧ extract? d (.caret (r.positionAt 2)) = some r ∧
      extract? d (.caret r.origin) = some ⟨['1'], 1, 0⟩ ∧
      c.step .toggle = (.directive (.execute ⟨1, r⟩), issued) ∧
      issued.editor.anchor = .caret ⟨1, 4⟩ ∧
      (issued.complete 0 1 (.error ⟨"no such column", 2⟩)).2.toggle.1 = .execute ⟨2, r⟩ := by
  intro d r c issued
  have hr : extract? d (.caret ⟨1, 4⟩) = some r := by decide +kernel
  have hclosed : closedAt? d (d.offsetOf r.origin) = some ⟨['1'], 1, 0⟩ := by decide +kernel
  have hstep : c.step .toggle = (.directive (.execute ⟨1, r⟩), issued) :=
    Prod.ext (congrArg Controller.Answer.directive (by decide +kernel)) rfl
  have hcaret : issued.editor.anchor = .caret ⟨1, 4⟩ := by decide +kernel
  obtain ⟨again, start⟩ := failed_statement_runs_again.1 d ⟨1, 4⟩ r hr
  refine ⟨hr, again 2, ?_, hstep, hcaret, ?_⟩
  · rw [start, hclosed]
    rfl
  · exact failed_statement_runs_again.2 c .toggle ⟨1, r⟩ ⟨1, 4⟩ 0 ⟨"no such column", 2⟩ issued hstep
      hcaret

/-- A failure at the start of a statement does not always run it again: in `1;2` the place right
behind the delimiter belongs to the first statement. -/
theorem start_behind_delimiter_runs_closed_statement :
    ¬ ∀ (d : Document) (p : Position) (r : Request) (k : Nat), extract? d (.caret p) = some r →
      extract? d (.caret (r.positionAt k)) = some r := by
  intro h
  have hagain := h ⟨"1;2".toList⟩ ⟨1, 3⟩ ⟨['2'], 1, 2⟩ 0 (by decide +kernel)
  have hother : extract? ⟨"1;2".toList⟩ (.caret (Request.positionAt ⟨['2'], 1, 2⟩ 0)) =
      some ⟨['1'], 1, 0⟩ := by decide +kernel
  rw [hother] at hagain
  cases hagain

end CaretSql
