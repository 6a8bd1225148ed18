import CaretSql.Proofs.Controller.Ledger
import CaretSql.Proofs.Request.Region

/-! Errors land where they belong. A request is the piece of its text that begins at its origin, so
an offset into the statement and the place that it is mapped to mean one character; and a run that
fails puts the caret there, whatever was done in the meantime, if the text is the same again. -/

namespace CaretSql

namespace Request

variable {d : Document} {a : Anchor} {r : Request}

theorem positionAt_eq_after (r : Request) (k : Nat) :
    r.positionAt k = r.origin.after (r.query.take k) := by
  unfold positionAt Position.after origin
  by_cases h : '\n' ∈ r.query.take k
  · have hne := Nat.ne_of_gt (List.count_pos_iff.mpr h)
    simp only [hne, h, if_true, if_false]
    rfl
  · have hzero := List.count_eq_zero_of_not_mem h
    have hwidth := Position.lastWidth_of_not_mem h
    unfold Position.lastWidth at hwidth
    simp only [hzero, h, hwidth, if_true, if_false]

/-- A request is what its text holds from its origin on. -/
theorem slice_origin (h : extract? d a = some r) :
    d.slice (d.offsetOf r.origin) (d.offsetOf r.origin + r.query.length) = r.query := by
  obtain ⟨start, stop, hstart, rfl⟩ := extract?_eq_ofSlice h
  have ho : d.offsetOf (ofSlice d start stop).origin = start := d.offsetOf_positionOf hstart
  rw [ho]
  exact d.slice_length start stop

theorem offsetOf_origin_add_length_le (h : extract? d a = some r) :
    d.offsetOf r.origin + r.query.length ≤ d.length := by
  have hlen := congrArg List.length (slice_origin h)
  have ho := d.offsetOf_le_length r.origin
  rw [Document.length_slice] at hlen
  omega

theorem positionOf_origin (h : extract? d a = some r) :
    d.positionOf (d.offsetOf r.origin) = r.origin := by
  obtain ⟨start, stop, hstart, rfl⟩ := extract?_eq_ofSlice h
  have ho : d.offsetOf (ofSlice d start stop).origin = start := d.offsetOf_positionOf hstart
  rw [ho]
  rfl

/-- An offset into the statement is mapped to as many characters behind the origin, if the
statement has as many. -/
theorem positionAt_eq (h : extract? d a = some r) (k : Nat) :
    r.positionAt k = d.positionOf (d.offsetOf r.origin + min k r.query.length) := by
  have hle : d.offsetOf r.origin + min k r.query.length ≤
      d.offsetOf r.origin + r.query.length := by omega
  have htake : d.slice (d.offsetOf r.origin) (d.offsetOf r.origin + min k r.query.length) =
      r.query.take k := by
    rw [← Document.slice_take d hle, slice_origin h, ← List.take_eq_take_min]
  rw [positionAt_eq_after, d.positionOf_after (Nat.le_add_right _ _), positionOf_origin h, htake]

theorem offsetOf_positionAt (h : extract? d a = some r) (k : Nat) :
    d.offsetOf (r.positionAt k) = d.offsetOf r.origin + min k r.query.length := by
  rw [positionAt_eq h]
  apply d.offsetOf_positionOf
  have := offsetOf_origin_add_length_le h
  omega

theorem getElem?_offsetOf_positionAt (h : extract? d a = some r) {k : Nat}
    (hk : k < r.query.length) : d.chars[d.offsetOf (r.positionAt k)]? = r.query[k]? := by
  have hmin : min k r.query.length = k := by omega
  rw [offsetOf_positionAt h, hmin]
  conv => rhs; rw [← slice_origin h]
  rw [Document.slice, List.getElem?_drop, List.getElem?_take]
  rw [if_pos (by omega)]

theorem locate_position (h : extract? d a = some r) (k : Nat) :
    (ErrorLocation.locate d r k).position =
      d.positionOf (d.offsetOf r.origin + min k r.query.length) := by
  change d.positionOf (d.offsetOf (r.positionAt k)) = _
  rw [offsetOf_positionAt h]

end Request

namespace Controller

variable {c : Controller} {run : Run}

theorem step_execute {op : Operation} (h : (c.step op).1 = .directive (.execute run)) :
    (c.step op).2.inFlight = some run ∧
      ∃ a, Request.extract? (c.step op).2.editor.document a = some run.request :=
  ⟨(issued_step h).inFlight, _, (issued_step h).request⟩

/-- As long as a run of this id is in flight, it is the run that was issued under it. -/
theorem inFlight_after {e : Editor} {f : Feed} {before : List Deed} {op : Operation}
    (later : List Deed)
    (hissue : ((({ editor := e, feed := f } : Controller).after before).step op).1 =
      .directive (.execute run))
    (hflight : (({ editor := e, feed := f } : Controller).after
      (before ++ .operation op :: later)).inFlight.map (·.id) = some run.id) :
    (({ editor := e, feed := f } : Controller).after
      (before ++ .operation op :: later)).inFlight = some run := by
  rw [after_append] at hflight ⊢
  set c := ({ editor := e, feed := f } : Controller).after before
  have hbooks := Ledger.balanced_after (Ledger.balanced_new e f) before
  have hlater := Ledger.balanced_after hbooks (.operation op :: later)
  obtain ⟨other, hother, hid⟩ := Option.map_eq_some_iff.mp hflight
  have hmem : run ∈ ((({} : Ledger).keep { editor := e, feed := f } before).keep c
      (.operation op :: later)).issued := by
    refine (Ledger.issued_keep _ (c.step op).2 later).subset ?_
    simp only [Ledger.enter, hissue, Ledger.record, Ledger.issue]
    exact List.mem_append_right _ (List.mem_singleton_self run)
  rw [hother, hlater.eq_of_id (hlater.mem_issued hother) hmem hid]

theorem complete_error_place {a : Anchor} (hflight : c.inFlight = some run)
    (hr : Request.extract? c.editor.document a = some run.request) (now : Nat)
    (failure : EngineFailure) :
    ∃ location notification after, c.complete now run.id (.error failure) =
        (some (.failed failure location notification), after) ∧
      location.position = c.editor.document.positionOf
        (c.editor.document.offsetOf run.request.origin +
          min failure.offset run.request.query.length) ∧
      location.span.start = location.position ∧
      after.editor.caret = location.position ∧
      after.editor.markers = c.editor.markers ++ [location.span] ∧
      after.editor.scrolledTo = some location.position.row ∧
      after.editor.focused = true := by
  refine ⟨_, _, _, complete_of_error hflight, Request.locate_position hr _, rfl, ?_, rfl, rfl, rfl⟩
  have hle := Request.offsetOf_origin_add_length_le hr
  change c.editor.document.clamp _ = _
  rw [Request.locate_position hr]
  exact c.editor.document.clamp_positionOf (by omega)

end Controller

/-- Errors are mapped exactly. In every text and for every request of it an offset into the
statement and the place that it is mapped to mean the same character; and a run that fails, in a
text that is the same as when the run was issued, puts the caret at the place of the failure. -/
theorem error_mapping :
    (∀ (d : Document) (a : Anchor) (r : Request), Request.extract? d a = some r →
      d.slice (d.offsetOf r.origin) (d.offsetOf r.origin + r.query.length) = r.query ∧
      (∀ k, r.positionAt k = d.positionOf (d.offsetOf r.origin + min k r.query.length)) ∧
      ∀ k < r.query.length, d.chars[d.offsetOf (r.positionAt k)]? = r.query[k]?) ∧
    ∀ (e : Editor) (f : Feed) (before later : List Controller.Deed) (op : Controller.Operation)
      (run : Run) (now : Nat) (failure : EngineFailure) (issued there : Controller),
      issued = ({ editor := e, feed := f } : Controller).after before →
      (issued.step op).1 = .directive (.execute run) →
      there = (issued.step op).2.after later →
      there.editor.text = (issued.step op).2.editor.text →
      there.inFlight.map (·.id) = some run.id →
      ∃ location notification done, there.complete now run.id (.error failure) =
          (some (.failed failure location notification), done) ∧
        location.position = there.editor.document.positionOf
          (there.editor.document.offsetOf run.request.origin +
            min failure.offset run.request.query.length) ∧
        location.span.start = location.position ∧
        done.editor.caret = location.position ∧
        done.editor.markers = there.editor.markers ++ [location.span] ∧
        done.editor.scrolledTo = some location.position.row ∧
        done.editor.focused = true := by
  refine ⟨?_, ?_⟩
  · intro d a r h
    exact ⟨Request.slice_origin h, Request.positionAt_eq h,
      fun k hk => Request.getElem?_offsetOf_positionAt h hk⟩
  · rintro e f before later op run now failure _ _ rfl hissue rfl htext hflight
    obtain ⟨-, a, hr⟩ := Controller.step_execute hissue
    rw [show (Controller.step _ op).2.editor.document = _ from
      congrArg Document.mk htext.symm] at hr
    have hthere := Controller.inFlight_after later hissue
      (by rw [Controller.after_append]; exact hflight)
    rw [Controller.after_append] at hthere
    exact Controller.complete_error_place hthere hr now failure

/-- A failure on the second line of a statement that begins in the middle of a line, after an
insertion that was taken back. -/
theorem error_mapping_second_line :
    let text := [';', '\n', ' ', 'a', ',', '\n', 'b', 'c']
    let issued : Controller :=
      { editor := { text, caret := ⟨3, 1⟩ }, feed := Feed.empty 500 ⟨145, 70⟩ }
    let there := (issued.step .toggle).2.after [.act (.insert ['!']), .act (.setText text)]
    there.editor.text = (issued.step .toggle).2.editor.text ∧
      there.inFlight.map (·.id) = some 1 ∧
      ∃ location notification done, there.complete 0 1 (.error ⟨"no such column", 4⟩) =
          (some (.failed ⟨"no such column", 4⟩ location notification), done) ∧
        location.position = ⟨3, 1⟩ ∧ done.editor.caret = ⟨3, 1⟩ := by
  intro text issued there
  have hissue : (issued.step .toggle).1 =
      .directive (.execute ⟨1, ⟨['a', ',', '\n', 'b', 'c'], 2, 1⟩⟩) :=
    congrArg Controller.Answer.directive (by decide +kernel)
  have htext : there.editor.text = (issued.step .toggle).2.editor.text := by decide +kernel
  have hflight : there.inFlight.map (·.id) = some 1 := by decide +kernel
  have hplace : there.editor.document.positionOf
      (there.editor.document.offsetOf ⟨2, 1⟩ + min 4 5) = ⟨3, 1⟩ := by decide +kernel
  obtain ⟨location, notification, done, hdone, hposition, -, hcaret, -⟩ :=
    error_mapping.2 issued.editor issued.feed [] _ .toggle _ 0 ⟨"no such column", 4⟩ issued there
      rfl hissue rfl htext hflight
  have hthere : location.position = ⟨3, 1⟩ := hposition.trans hplace
  exact ⟨htext, hflight, location, notification, done, hdone, hthere, hcaret.trans hthere⟩

end CaretSql
