import CaretSql.Proofs.Controller.Marker

/-! Where a controller shows its marker. A marker begins at a place of the text, and does not end
before it; its end is a place too, until text with a newline is inserted under it. -/

namespace CaretSql.Controller

open Editor (Act Alike)

variable {c : Controller} {e : Editor} {op : Operation} {ops : List Operation} {m : TextRange}

/-- The span of a failure is a range of the text, from the place of the failure on. -/
theorem locate_span (d : Document) (r : Request) (offset : Nat) :
    (ErrorLocation.locate d r offset).span.start = (ErrorLocation.locate d r offset).position ∧
      d.IsPlace (ErrorLocation.locate d r offset).position ∧
      d.IsPlace (ErrorLocation.locate d r offset).span.stop ∧
      ¬ (ErrorLocation.locate d r offset).span.stop <
        (ErrorLocation.locate d r offset).span.start :=
  ⟨rfl, d.isPlace_positionOf _, d.isPlace_positionOf _, d.not_positionOf_lt (Nat.le_add_right _ _)⟩

/-- What is true of a marker in an editor as long as it is shown: it begins at a place that is not
behind the caret, and nothing is selected. -/
structure Standing (e : Editor) (m : TextRange) : Prop where
  start : e.document.IsPlace m.start
  ordered : ¬ m.stop < m.start
  selection : e.selection = none
  caret : e.document.offsetOf m.start ≤ e.document.offsetOf e.caret

theorem standing_marked (e : Editor) (r : Request) (offset : Nat) :
    Standing (marked e (ErrorLocation.locate e.document r offset))
      (ErrorLocation.locate e.document r offset).span where
  start := (locate_span e.document r offset).2.1
  ordered := (locate_span e.document r offset).2.2.2
  selection := rfl
  caret := by
    have hplace := (locate_span e.document r offset).2.1
    change e.document.offsetOf (ErrorLocation.locate e.document r offset).position ≤
      e.document.offsetOf (e.document.clamp (ErrorLocation.locate e.document r offset).position)
    rw [Document.clamp, hplace]

theorem Standing.insert (h : Standing e m) (hplaced : e.Placed) (s : List Char) :
    Standing (e.insert s) m := by
  obtain ⟨hplace, hoffset⟩ := Editor.isPlace_insert_of_le h.selection h.start h.caret s
  refine ⟨hplace, h.ordered, rfl, ?_⟩
  have htarget : e.target.1 = e.document.offsetOf e.caret := by
    rw [Editor.target, h.selection]
  have hcaret := h.caret
  rw [hoffset, hplaced.offsetOf_caret_insert, htarget]
  omega

theorem Standing.of_alike (h : Standing e m) {e' : Editor} (halike : Alike e e') :
    Standing e' m := by
  refine ⟨?_, h.ordered, halike.selection.trans h.selection, ?_⟩
  · rw [halike.document]
    exact h.start
  · rw [halike.document, halike.caret]
    exact h.caret

/-- Where no run is in flight a quiet operation but an insertion leaves the text, the caret and the
selection alone. -/
theorem alike_of_quiet (hidle : c.inFlight = none) (hquiet : c.Quiet op)
    (hinsert : ¬ ∃ s, op = .insertText s) : Alike c.editor (c.step op).2.editor := by
  have hattempts := hquiet.attempts
  have hreplaces := hquiet.replaces
  rw [attempts, state_of_idle hidle] at hattempts
  cases op with
  | toggle | runQuery | appendAndRun => simp at hattempts
  | insertText s => exact absurd ⟨s, rfl⟩ hinsert
  | complete now id outcome =>
    have hstale : c.complete now id outcome = (none, c) := by
      apply complete_of_stale
      intro run hrun
      rw [hidle] at hrun
      cases hrun
    simp only [step, hstale]
    exact ⟨rfl, rfl, rfl⟩
  | cancel =>
    simp only [step, cancel_of_idle hidle]
    exact ⟨rfl, rfl, rfl⟩
  | setText s =>
    have hempty : s.isEmpty = true := by simpa using hreplaces
    simp only [step, setText, hempty, if_true]
    exact ⟨rfl, rfl, rfl⟩
  | loadPreferences =>
    have hnone : c.editor.saved = none := by simpa using hreplaces
    simp only [step, loadPreferences, Editor.loadPreferences, hnone]
    exact ⟨rfl, rfl, rfl⟩
  | registerActions => exact c.alike_registerActions
  | exportLink | focus | savePreferences | setMaxHeight | removeNotification | clearNotifications =>
    exact ⟨rfl, rfl, rfl⟩

/-- Text with a newline was inserted while the marker was shown, and it is shown since. -/
def Parted (c : Controller) (ops : List Operation) (m : TextRange) : Prop :=
  ∃ before s later, ops = before ++ .insertText s :: later ∧ '\n' ∈ s ∧
    m ∈ (c.operate before).editor.markers ∧
    ((c.operate before).insertText s).QuietThrough later

theorem Parted.snoc (h : c.Parted ops m) (hquiet : (c.operate ops).Quiet op) :
    c.Parted (ops ++ [op]) m := by
  obtain ⟨before, s, later, rfl, hs, hm, hthrough⟩ := h
  rw [operate_append] at hquiet
  exact ⟨before, s, later ++ [op], by simp, hs, hm, quietThrough_snoc.mpr ⟨hthrough, hquiet⟩⟩

theorem standing_of_reported (h : (c.step op).1.reported? = some m) :
    Standing (c.step op).2.editor m ∧ (c.step op).2.editor.document.IsPlace m.stop := by
  cases op with
  | complete now id outcome =>
    rcases c.editor_complete now id outcome with ⟨-, hr⟩ | ⟨run, offset, -, he, hr⟩
    · rw [step, hr] at h
      cases h
    · rw [step, hr] at h
      obtain rfl := Option.some.inj h
      simp only [step, he]
      exact ⟨standing_marked c.editor run.request offset,
        (locate_span c.editor.document run.request offset).2.2.1⟩
  | _ => cases h

theorem idle_of_mem (hc : c.state = .running → c.editor.markers = [])
    (hm : m ∈ c.editor.markers) : c.inFlight = none := by
  rcases Option.eq_none_or_eq_some c.inFlight with hidle | ⟨run, hrun⟩
  · exact hidle
  · rw [hc (state_of_running hrun)] at hm
    cases hm

theorem standing_step (hplaced : c.editor.Placed) (hidle : c.inFlight = none)
    (h : Standing c.editor m) (hquiet : c.Quiet op) : Standing (c.step op).2.editor m := by
  by_cases hinsert : ∃ s, op = .insertText s
  · obtain ⟨s, rfl⟩ := hinsert
    exact (h.insert hplaced s).of_alike ⟨rfl, rfl, rfl⟩
  · exact h.of_alike (alike_of_quiet hidle hquiet hinsert)

/-- Only a newline can leave the end of a marker behind. -/
theorem stop_step (hidle : c.inFlight = none) (h : Standing c.editor m)
    (hstop : c.editor.document.IsPlace m.stop) (hquiet : c.Quiet op) :
    (c.step op).2.editor.document.IsPlace m.stop ∨ ∃ s, op = .insertText s ∧ '\n' ∈ s := by
  by_cases hinsert : ∃ s, op = .insertText s
  · obtain ⟨s, rfl⟩ := hinsert
    by_cases hs : '\n' ∈ s
    · exact Or.inr ⟨s, rfl, hs⟩
    · exact Or.inl (Editor.isPlace_insert_of_not_mem h.selection hstop hs)
  · left
    rw [(alike_of_quiet hidle hquiet hinsert).document]
    exact hstop

theorem standing_operate (hplaced : c.editor.Placed) (hnone : c.editor.markers = [])
    (ops : List Operation) :
    ∀ m ∈ (c.operate ops).editor.markers, Standing (c.operate ops).editor m ∧
      ((c.operate ops).editor.document.IsPlace m.stop ∨ c.Parted ops m) := by
  induction ops using List.reverseRecOn with
  | nil =>
    intro m hm
    rw [operate, List.foldl_nil, hnone] at hm
    cases hm
  | append_singleton ops op ih =>
    intro m hm
    have hc := unmarked_operate (c := c) (fun _ => hnone) ops
    rw [operate_append] at hm ⊢
    rcases (mem_markers_step hc).mp hm with hreported | ⟨hm, hquiet⟩
    · obtain ⟨hstanding, hstop⟩ := standing_of_reported hreported
      exact ⟨hstanding, Or.inl hstop⟩
    · have hidle := idle_of_mem hc hm
      obtain ⟨hstanding, hstop | hparted⟩ := ih m hm
      · refine ⟨standing_step (placed_operate hplaced ops) hidle hstanding hquiet, ?_⟩
        rcases stop_step hidle hstanding hstop hquiet with hstop | ⟨s, rfl, hs⟩
        · exact Or.inl hstop
        · exact Or.inr ⟨ops, s, [], rfl, hs, hm, trivial⟩
      · exact ⟨standing_step (placed_operate hplaced ops) hidle hstanding hquiet,
          Or.inr (hparted.snoc hquiet)⟩

/-- In an editor that began without markers a marker begins at a place of the text and does not end
before it, whatever the controller is told to do; and it ends at a place, unless text with a newline
has been inserted since it was made. -/
theorem marker_denotes_text (text : List Char) (acts : List Act)
    (h : (({ text } : Editor).after acts).markers = []) (f : Feed) (ops : List Operation) :
    let start : Controller := { editor := ({ text } : Editor).after acts, feed := f }
    let e := (start.operate ops).editor
    ∀ m ∈ e.markers, e.document.IsPlace m.start ∧ ¬ m.stop < m.start ∧
      (e.document.IsPlace m.stop ∨ start.Parted ops m) := by
  intro start e m hm
  have hplaced : start.editor.Placed := (Editor.placed_new text).after acts
  obtain ⟨hstanding, hstop⟩ := standing_operate hplaced h ops m hm
  exact ⟨hstanding.start, hstanding.ordered, hstop⟩

/-- The marker of a failing `x` with text inserted in front of it. -/
theorem marker_denotes_text_behind_insertion :
    let e : Editor := ({ text := ['x'] } : Editor).after []
    let start : Controller := { editor := e, feed := .empty 500 ⟨145, 70⟩ }
    let ops : List Operation :=
      [.toggle, .complete 0 1 (.error ⟨"no such column", 0⟩), .insertText ['y', ' ']]
    let m : TextRange := ⟨⟨1, 0⟩, ⟨1, 1⟩⟩
    e.markers = [] ∧ m ∈ (start.operate ops).editor.markers ∧
      (start.operate ops).editor.document.IsPlace m.start ∧ ¬ m.stop < m.start := by
  intro e start ops m
  have hm : m ∈ (start.operate ops).editor.markers := by decide +kernel
  obtain ⟨hplace, hordered, -⟩ :=
    marker_denotes_text ['x'] [] rfl (.empty 500 ⟨145, 70⟩) ops m hm
  exact ⟨rfl, hm, hplace, hordered⟩

/-- A marker does not always end at a place of the text: a newline inserted before the failing `x`
leaves its end behind the end of a line. -/
theorem newline_leaves_marker_behind :
    ¬ ∀ (text : List Char) (acts : List Act) (f : Feed) (ops : List Operation),
      (({ text } : Editor).after acts).markers = [] →
      let e := (({ editor := ({ text } : Editor).after acts, feed := f } : Controller).operate
        ops).editor
      ∀ m ∈ e.markers, e.document.IsPlace m.start ∧ e.document.IsPlace m.stop ∧
        ¬ m.stop < m.start := by
  intro h
  have hplaces := h ['x'] [] (.empty 500 ⟨145, 70⟩)
    [.toggle, .complete 0 1 (.error ⟨"no such column", 0⟩), .insertText ['\n']] rfl
    ⟨⟨1, 0⟩, ⟨1, 1⟩⟩ (by decide +kernel)
  exact absurd hplaces.2.1 (by decide +kernel)

end CaretSql.Controller
