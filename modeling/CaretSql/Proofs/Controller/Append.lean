import CaretSql.Proofs.Controller.Edit
import CaretSql.Proofs.Request.Selection

/-! Appending a statement and running it. The statement is appended on a line of its own, and what
is run is the last line of the text: the whole statement if it has no newline of its own, and else
only what stands behind the last one. -/

namespace CaretSql

open Document (lastLine aboveLastLine)

namespace Controller

variable {c : Controller}

def extended (s t : List Char) : List Char := s ++ '\n' :: (t ++ [';'])

/-- The last line of the text is that of the statement, its delimiter included. -/
theorem lastLine_extended (s t : List Char) :
    lastLine (extended s t) = lastLine t ++ [';'] ∧
      aboveLastLine (extended s t) = s ++ '\n' :: aboveLastLine t := by
  have hparts : extended s t = (s ++ '\n' :: aboveLastLine t) ++ (lastLine t ++ [';']) := by
    rw [extended]
    conv => lhs; rw [← Document.aboveLastLine_append t]
    simp
  rw [hparts]
  apply Document.lastLine_append
  · rw [Position.lastWidth_append, if_pos List.mem_cons_self, Position.lastWidth_newline,
      Document.lastWidth_aboveLastLine]
  · simp [Document.not_mem_lastLine]

theorem extract?_lastLine {e : Editor} (h : lastLine e.text ≠ []) :
    let selected := e.select (e.document.lineRange e.document.lineCount)
    Request.extract? selected.document selected.anchor =
      some (Request.ofSlice e.document (aboveLastLine e.text).length e.text.length) := by
  intro selected
  have hlt : (aboveLastLine e.text).length < e.text.length := by
    have hlen := congrArg List.length (Document.aboveLastLine_append e.text)
    have hpos := List.length_pos_iff.mpr h
    rw [List.length_append] at hlen
    omega
  have hselected : selected = e.select _ := congrArg e.select e.document.lineRange_last
  rw [hselected]
  exact Editor.extract?_select_between hlt (Nat.le_refl _)

theorem query_lastLine (s : List Char) :
    (Request.ofSlice ⟨s⟩ (aboveLastLine s).length s.length).query = lastLine s := by
  change (s.take s.length).drop (aboveLastLine s).length = lastLine s
  rw [List.take_length, Document.drop_aboveLastLine]

end Controller

open Controller

/-- An idle controller that is given a statement appends it on a line of its own and issues one run,
of the last line of the statement, at the place where that line begins. A statement of one line is
run as a whole, from its first character on; of no other statement is all of it run. -/
theorem append_runs_last_line {c : Controller} (h : c.inFlight = none) (t : List Char) :
    ∃ run, (c.appendAndRun t).1 = .execute run ∧
      (c.appendAndRun t).2.inFlight = some run ∧
      (c.appendAndRun t).2.issued = c.issued + 1 ∧
      (c.appendAndRun t).2.editor.text = c.editor.text ++ '\n' :: (t ++ [';']) ∧
      run.request.query = lastLine t ++ [';'] ∧
      run.request.origin = (c.appendAndRun t).2.editor.document.positionOf
        (c.editor.text.length + 1 + (aboveLastLine t).length) ∧
      ('\n' ∉ t → run.request.query = t ++ [';'] ∧
        run.request.origin =
          (c.appendAndRun t).2.editor.document.positionOf (c.editor.text.length + 1)) ∧
      ('\n' ∈ t → run.request.query ≠ t ++ [';']) := by
  set e := c.editor.append ('\n' :: t ++ [';'])
  have htext : e.text = extended c.editor.text t := rfl
  obtain ⟨hline, habove⟩ := lastLine_extended c.editor.text t
  have hrequest := extract?_lastLine (e := e) (by rw [htext, hline]; simp)
  set selected := e.select (e.document.lineRange e.document.lineCount)
  set request := Request.ofSlice e.document (aboveLastLine e.text).length e.text.length
  have hquery : request.query = lastLine t ++ [';'] := (query_lastLine e.text).trans hline
  have horigin : request.origin =
      e.document.positionOf (c.editor.text.length + 1 + (aboveLastLine t).length) := by
    change e.document.positionOf (aboveLastLine e.text).length = _
    rw [htext, habove, List.length_append, List.length_cons, Nat.add_assoc, Nat.add_comm 1]
  have hrun : c.appendAndRun t = (.execute ⟨c.issued + 1, request⟩, _) :=
    (toggle_of_idle (c := { c with editor := selected }) h).trans (start_of_some hrequest)
  rw [hrun]
  refine ⟨⟨c.issued + 1, request⟩, rfl, rfl, rfl, rfl, hquery, horigin, ?_, ?_⟩
  · intro hnot
    obtain ⟨hall, hnil⟩ := Document.lastLine_append (s := []) rfl hnot
    rw [List.nil_append] at hall hnil
    refine ⟨hquery.trans (by rw [hall]), horigin.trans ?_⟩
    rw [hnil]
    rfl
  · intro hmem heq
    rw [← List.append_cancel_right (hquery.symm.trans heq)] at hmem
    exact Document.not_mem_lastLine t hmem

/-- To `1` is appended a statement of two lines, of which the second is run. -/
theorem append_runs_last_line_of_two :
    let c : Controller := { editor := { text := ['1'] }, feed := .empty 500 ⟨145, 70⟩ }
    c.inFlight = none ∧ ∃ run, (c.appendAndRun ['2', '\n', '3']).1 = .execute run ∧
      run.request.query = ['3', ';'] ∧ run.request.query ≠ ['2', '\n', '3', ';'] := by
  intro c
  obtain ⟨run, hrun, -, -, -, hquery, -, -, hpart⟩ :=
    append_runs_last_line (c := c) rfl ['2', '\n', '3']
  exact ⟨rfl, run, hrun, hquery, hpart (by decide)⟩

/-- A statement of several lines that is appended is not run as a whole. -/
theorem upper_lines_are_not_run :
    ¬ ∀ (text : List Char) (f : Feed) (ops : List Operation) (t : List Char),
      let c := ({ editor := { text }, feed := f } : Controller).operate ops
      c.inFlight = none → ∃ run, (c.appendAndRun t).1 = .execute run ∧
        run.request.query = t ++ [';'] := by
  intro h
  obtain ⟨run, hrun, hquery⟩ := h [] (.empty 500 ⟨145, 70⟩) [] ['a', '\n', 'b'] rfl
  have hissued : (({ editor := { text := [] }, feed := .empty 500 ⟨145, 70⟩ } :
      Controller).appendAndRun ['a', '\n', 'b']).1 = .execute ⟨1, ['b', ';'], 3, 0⟩ := by
    decide +kernel
  rw [Directive.execute.inj (hrun.symm.trans hissued)] at hquery
  exact absurd hquery (by decide)

end CaretSql
