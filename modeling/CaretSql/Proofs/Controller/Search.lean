import CaretSql.Proofs.Controller.Operation
import CaretSql.Proofs.Editor.Search

/-! Running a quoted text that is searched for. If the text stands in the editor, the run is of that
occurrence and of nothing else; if not, the search does nothing and whatever the caret runs is run. -/

namespace CaretSql

open Editor (Next lookups)

namespace Controller

variable {c : Controller} {hit : Nat}

def literal (t : List Char) : List Char := '\'' :: t ++ ['\'']

theorem literal_ne_nil (t : List Char) : literal t ≠ [] := List.cons_ne_nil _ _

theorem runQuery_of_absent {t : List Char} (h : ¬ literal t <:+: c.editor.text) :
    c.runQuery t = c.toggle := by
  change ({ c with editor := (c.editor.find (literal t)).2 } : Controller).toggle = _
  rw [Editor.find_of_absent (.inr h)]

theorem extract?_found {e : Editor} {needle : List Char} (hne : needle ≠ [])
    (h : Editor.Occurs needle e.text hit) :
    Request.extract? (e.select (e.span needle hit)).document (e.select (e.span needle hit)).anchor =
      some (Request.ofSlice e.document hit (hit + needle.length)) :=
  Editor.extract?_select_between (Nat.lt_add_of_pos_right (List.length_pos_iff.mpr hne)) (h.le hne)

theorem runQuery_of_next {t : List Char} (hidle : c.inFlight = none)
    (h : Next (literal t) c.editor.text (c.editor.document.offsetOf c.editor.caret) hit) :
    c.runQuery t =
      let run : Run := ⟨c.issued + 1,
        Request.ofSlice c.editor.document hit (hit + (literal t).length)⟩
      (.execute run, { c with
        editor := (c.editor.select (c.editor.span (literal t) hit)).clearMarkers.savePreferences
        inFlight := some run
        issued := c.issued + 1 }) := by
  change ({ c with editor := (c.editor.find (literal t)).2 } : Controller).toggle = _
  rw [Editor.find_of_next (literal_ne_nil t) h]
  set selected := c.editor.select (c.editor.span (literal t) hit)
  exact (toggle_of_idle (c := { c with editor := selected }) hidle).trans
    (start_of_some (extract?_found (literal_ne_nil t) h.occurs))

end Controller

open Controller

/-- A search finds nothing exactly if there is nothing to find or it does not occur, and then changes
nothing. What it finds is the first occurrence from the caret on, or else the first of all; it is
selected with the caret at its end. On the way each offset at which the needle could begin is looked
at once. And so an idle controller that is given a text runs, once, the occurrence of that text in
quotes that its editor comes to; if there is none it does as a toggle. -/
theorem search_comes_around :
    (∀ (e : Editor) (needle : List Char),
      ((e.find needle).1 = none ↔ needle = [] ∨ ¬ needle <:+: e.text) ∧
      ((e.find needle).1 = none → (e.find needle).2 = e) ∧
      ∀ r, (e.find needle).1 = some r → ∃ hit,
        Next needle e.text (e.document.offsetOf e.caret) hit ∧
        r = ⟨e.document.positionOf hit, e.document.positionOf (hit + needle.length)⟩ ∧
        (e.find needle).2 = { e with caret := r.stop, selection := some r } ∧
        e.document.textIn r = needle ∧ e.document.offsetOf r.stop = hit + needle.length) ∧
    (∀ (e : Editor) (needle : List Char), needle ≠ [] → needle.length ≤ e.text.length →
      let last := e.text.length - needle.length
      let order := lookups (e.document.offsetOf e.caret) last
      order.Perm (List.range (last + 1)) ∧
      (e.find needle).1 =
        (order.find? fun i => needle.isPrefixOf (e.text.drop i)).map (e.span needle)) ∧
    ∀ (c : Controller) (t : List Char), c.inFlight = none →
      (literal t <:+: c.editor.text → ∃ hit run,
        Next (literal t) c.editor.text (c.editor.document.offsetOf c.editor.caret) hit ∧
        run.id = c.issued + 1 ∧ run.request.query = literal t ∧
        run.request.origin = c.editor.document.positionOf hit ∧
        c.runQuery t = (.execute run, { c with
          editor := (c.editor.find (literal t)).2.clearMarkers.savePreferences
          inFlight := some run
          issued := c.issued + 1 })) ∧
      (¬ literal t <:+: c.editor.text → c.runQuery t = c.toggle) := by
  refine ⟨?_, ?_, ?_⟩
  · intro e needle
    by_cases habsent : needle = [] ∨ ¬ needle <:+: e.text
    · rw [Editor.find_of_absent habsent]
      exact ⟨⟨fun _ => habsent, fun _ => rfl⟩, fun _ => rfl, by nofun⟩
    · obtain ⟨hne, hpresent⟩ := not_or.mp habsent
      obtain ⟨hit, hnext⟩ := Editor.exists_next hne (not_not.mp hpresent)
        (e.document.offsetOf e.caret)
      have hle : hit + needle.length ≤ e.document.length := hnext.occurs.le hne
      rw [Editor.find_of_next hne hnext]
      refine ⟨⟨by nofun, fun h => absurd h habsent⟩, by nofun, ?_⟩
      rintro r ⟨⟩
      exact ⟨hit, hnext, rfl, Editor.select_span hnext.occurs hne,
        Editor.textIn_span hnext.occurs hne, e.document.offsetOf_positionOf hle⟩
  · intro e needle hne hle
    refine ⟨Editor.lookups_perm _ _, ?_⟩
    rw [Editor.fst_find hne, Editor.occurrence?_eq_find?_lookups hne hle]
  · intro c t hidle
    refine ⟨fun hpresent => ?_, runQuery_of_absent⟩
    obtain ⟨hit, hnext⟩ := Editor.exists_next (literal_ne_nil t) hpresent
      (c.editor.document.offsetOf c.editor.caret)
    rw [Editor.find_of_next (literal_ne_nil t) hnext, runQuery_of_next hidle hnext]
    have hquery := Document.slice_of_isPrefix (d := c.editor.document) hnext.occurs
    exact ⟨hit, _, hnext, rfl, hquery, rfl, rfl⟩

/-- The caret is behind both occurrences of the text, so the search goes around to the first. -/
theorem search_comes_around_to_first :
    let e : Editor := { text := "'a' 'a' b".toList, caret := ⟨1, 8⟩ }
    let c : Controller := { editor := e, feed := .empty 500 ⟨145, 70⟩ }
    (e.find ['a']).1 = some ⟨⟨1, 1⟩, ⟨1, 2⟩⟩ ∧ e.document.textIn ⟨⟨1, 1⟩, ⟨1, 2⟩⟩ = ['a'] ∧
      c.inFlight = none ∧ literal ['a'] <:+: c.editor.text ∧
      ∃ run, (c.runQuery ['a']).1 = .execute run ∧ run.request.query = "'a'".toList := by
  intro e c
  have hfound : (e.find ['a']).1 = some ⟨⟨1, 1⟩, ⟨1, 2⟩⟩ := by decide +kernel
  obtain ⟨-, -, -, -, htext, -⟩ := (search_comes_around.1 e ['a']).2.2 _ hfound
  have hpresent : literal ['a'] <:+: c.editor.text := ⟨[], " 'a' b".toList, by decide⟩
  obtain ⟨hit, run, -, -, hquery, -, hrun⟩ := (search_comes_around.2.2 c ['a'] rfl).1 hpresent
  exact ⟨hfound, htext, rfl, hpresent, run, by rw [hrun], hquery⟩

end CaretSql
