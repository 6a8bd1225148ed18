import CaretSql.Proofs.Controller.Operation
import CaretSql.Proofs.Request.Selection
import CaretSql.Proofs.Text.Form

/-! What a link exports: the statement that a run from here would send, whole and alone. The run
clears the markers and saves the preferences ahead of looking for its statement, which changes
nothing that the statement depends on; and a form brings its value back unchanged. -/

namespace CaretSql.Controller

open Text

variable {c : Controller}

def atRest (c : Controller) : Controller := { c with inFlight := none }

/-- What a controller exports, set against what it would run. -/
structure Exports (c : Controller) : Prop where
  /-- nothing is exported exactly where nothing would be run -/
  nothing : c.exportLink? none = none ↔ c.atRest.toggle.1 = .nothing
  /-- else the statement that would be run -/
  statement : ∀ link, c.exportLink? none = some link →
    ∃ run, c.atRest.toggle.1 = .execute run ∧ c.exportLink? (some run.request.query) = some link
  /-- a query is the only pair of its link, which holds nothing but what a form is written in -/
  carried : ∀ query, ∃ code, c.exportLink? (some query) = some ("/exp?query=".toList ++ code) ∧
    (∀ d ∈ code, Form.isUsed d = true) ∧
    Form.pairs? ("query=".toList ++ code) = some [("query".toList, query)]
  distinct : Function.Injective fun query => c.exportLink? (some query)

theorem exportLink?_some (c : Controller) (query : List Char) :
    c.exportLink? (some query) = some ("/exp?query=".toList ++ Form.encode query) := rfl

theorem exportLink?_none (c : Controller) :
    c.exportLink? none =
      (Request.extract? c.editor.document c.editor.anchor).bind fun request =>
        c.exportLink? (some request.query) := by
  unfold exportLink?
  cases Request.extract? c.editor.document c.editor.anchor <;> rfl

theorem extract?_prepared (c : Controller) :
    Request.extract? c.prepared.document c.prepared.anchor =
      Request.extract? c.editor.document c.editor.anchor :=
  Editor.Alike.extract? (e := c.editor) ⟨rfl, rfl, rfl⟩

theorem toggle_atRest_of_none
    (h : Request.extract? c.editor.document c.editor.anchor = none) :
    c.atRest.toggle.1 = .nothing := by
  rw [toggle_of_idle rfl, start_of_none (c := c.atRest) ((extract?_prepared c).trans h)]

theorem toggle_atRest_of_some {request : Request}
    (h : Request.extract? c.editor.document c.editor.anchor = some request) :
    c.atRest.toggle.1 = .execute ⟨c.issued + 1, request⟩ := by
  rw [toggle_of_idle rfl, start_of_some (c := c.atRest) ((extract?_prepared c).trans h)]
  rfl

theorem exportLink?_injective (c : Controller) :
    Function.Injective fun query => c.exportLink? (some query) := by
  intro s t h
  simp only [exportLink?_some, Option.some.injEq, List.append_cancel_left_eq] at h
  exact Form.encode_injective h

/-- An export names the statement that a run would send, and a link carries exactly its query. -/
theorem export_names_statement (c : Controller) : c.Exports where
  nothing := by
    rw [exportLink?_none]
    cases h : Request.extract? c.editor.document c.editor.anchor with
    | none => simp [toggle_atRest_of_none h]
    | some request => simp [toggle_atRest_of_some h, exportLink?_some]
  statement := by
    intro link hlink
    rw [exportLink?_none, Option.bind_eq_some_iff] at hlink
    obtain ⟨request, h, hlink⟩ := hlink
    exact ⟨⟨c.issued + 1, request⟩, toggle_atRest_of_some h, hlink⟩
  carried query := ⟨Form.encode query, exportLink?_some c query,
    fun _ => Form.isUsed_of_mem_encode, Form.pairs?_encodePair "query".toList query⟩
  distinct := exportLink?_injective c

end CaretSql.Controller
