import CaretSql.Engine.Postgres.Reply
import CaretSql.Proofs.Controller.Operation
import CaretSql.Proofs.Request.Preamble

/-! The kind of an empty result. It is told by the word that a statement begins with, and blanks
ahead of that word do not count; comments do, although the statement behind them is the same. -/

namespace CaretSql

namespace Postgres

variable {c q : List Char}

/-- Whatever stands ahead of a statement, a statement that begins with no letter has no keyword. -/
theorem returnsRows_of_not_alpha (h : ∃ d ∈ (Character.trimStart q).head?, d.isAlpha = false) :
    returnsRows q = false := by
  obtain ⟨d, hd, halpha⟩ := h
  obtain ⟨rest, hrest⟩ := List.head?_eq_some_iff.mp hd
  have hword : (Character.trimStart q).takeWhile Char.isAlpha = [] := by
    rw [hrest, List.takeWhile_cons_of_neg (by simp [halpha])]
  rw [returnsRows, hword]
  decide

theorem returnsRows_blank (h : ∀ x ∈ c, Character.isBlank x = true) (q : List Char) :
    returnsRows (c ++ q) = returnsRows q := by
  have htrim : Character.trimStart (c ++ q) = Character.trimStart q :=
    List.dropWhile_append_of_pos h
  rw [returnsRows, htrim, returnsRows]

/-- A preamble that is not all blank begins with a comment, which no keyword does. -/
theorem returnsRows_comment (h : Preamble c) (hc : ∃ x ∈ c, Character.isBlank x = false)
    (q : List Char) : returnsRows (c ++ q) = false := by
  apply returnsRows_of_not_alpha
  have hne : (Character.trimStart c).isEmpty = false := by
    rw [List.isEmpty_eq_false_iff]
    intro hnil
    obtain ⟨x, hx, hb⟩ := hc
    rw [List.dropWhile_eq_nil_iff.mp hnil x hx] at hb
    cases hb
  have htrim : Character.trimStart (c ++ q) = Character.trimStart c ++ q := by
    rw [Character.trimStart, List.dropWhile_append, ← Character.trimStart, hne, if_neg (by simp)]
  obtain ⟨d, rest, hd⟩ := List.exists_cons_of_ne_nil (List.isEmpty_eq_false_iff.mp hne)
  have hopens := h.head?_trimStart d (by rw [hd]; rfl)
  refine ⟨d, by rw [htrim, hd]; rfl, ?_⟩
  rcases hopens with rfl | rfl <;> decide

def emptyKind (query : List Char) : ResultKind := if returnsRows query then .dql else .ddl

theorem kind_table (limit : Nat) (query : List Char) (columns : List Column) :
    (table limit query columns []).kind = emptyKind query := by
  rw [table, emptyKind]
  split <;> rfl

end Postgres

theorem Controller.announce_kind (r : QueryResult) :
    (announce r).1 = if r.kind = .dql then .success else .info := by
  unfold announce
  cases r.kind <;> rfl

theorem Controller.newest_complete {k : Controller} {run : Run} (h : k.inFlight = some run)
    (now : Nat) (result : QueryResult) :
    (k.complete now run.id (.ok result)).2.feed.state.notifications.head?.map (·.kind) =
      some (if result.kind = .dql then .success else .info) := by
  rw [newest_notice h, Option.map_some, ← announce_kind]
  rfl

open Postgres

/-- Blanks and closed comments ahead of a statement leave it the statement that it is by itself. An
empty result of it is a result set, announced as a success, only if the statement asks for rows and
there is no comment ahead of it; blanks make no difference. -/
theorem comment_hides_keyword {c : List Char} (h : Preamble c) (q : List Char) :
    Lexemes.ofText (c ++ q) = Lexemes.ofText c ++ (Lexemes.ofText q).shift c.length ∧
      returnsRows (c ++ q) = (c.all Character.isBlank && returnsRows q) ∧
      ∀ (k : Controller) (run : Run), k.inFlight = some run → run.request.query = c ++ q →
        ∀ (seconds limit now : Nat) (timings : Timings) (columns : List Column),
          ∃ result,
            outcome seconds limit timings run.request.query (.rows columns []) = .ok result ∧
            result.kind = (if c.all Character.isBlank then emptyKind q else .ddl) ∧
            (k.complete now run.id (.ok result)).2.feed.state.notifications.head?.map (·.kind) =
              some (if c.all Character.isBlank ∧ emptyKind q = .dql then .success else .info) := by
  have hrows : returnsRows (c ++ q) = (c.all Character.isBlank && returnsRows q) := by
    cases hall : c.all Character.isBlank with
    | true => rw [returnsRows_blank (List.all_eq_true.mp hall), Bool.true_and]
    | false =>
      obtain ⟨x, hx, hb⟩ := List.all_eq_false.mp hall
      rw [returnsRows_comment h ⟨x, hx, by simpa using hb⟩, Bool.false_and]
  have hkind : emptyKind (c ++ q) = if c.all Character.isBlank then emptyKind q else .ddl := by
    rw [emptyKind, hrows]
    cases c.all Character.isBlank <;> rfl
  refine ⟨h.ofText_append q, hrows, ?_⟩
  intro k run hrun hquery seconds limit now timings columns
  refine ⟨_, rfl, ?_, ?_⟩
  · rw [hquery, ← hkind]
    exact kind_table limit (c ++ q) columns
  · rw [Controller.newest_complete hrun, hquery]
    change some (if (table limit (c ++ q) columns []).kind = .dql then _ else _) = _
    rw [kind_table, hkind]
    cases c.all Character.isBlank <;> simp

/-- A nested comment and one of a line ahead of a query for rows. -/
theorem comment_hides_keyword_of_select :
    let c := "/*a/**/*/ --b\n".toList
    Preamble c ∧ returnsRows "select 1".toList = true ∧
      returnsRows (c ++ "select 1".toList) = false := by
  intro c
  have h : Preamble c := by decide +kernel
  have hrows : returnsRows "select 1".toList = true := by decide +kernel
  have hall : c.all Character.isBlank = false := by decide +kernel
  refine ⟨h, hrows, ?_⟩
  rw [(comment_hides_keyword h "select 1".toList).2.1, hall]
  rfl

/-- A comment on the line before is sent along with a query, which is then taken for a change. -/
theorem leading_comment_hides_select :
    ¬ ∀ (d : Document) (p : Position) (r : Request) (c q : List Char), Preamble c →
      Request.extract? d (.caret p) = some r → r.query = c ++ q →
      returnsRows r.query = returnsRows q := by
  intro h
  have hsame := h ⟨"--x\nSELECT 1".toList⟩ ⟨2, 0⟩ ⟨"--x\nSELECT 1".toList, 1, 0⟩ "--x\n".toList
    "SELECT 1".toList (by decide +kernel) (by decide +kernel) (by decide +kernel)
  exact absurd hsame (by decide +kernel)

end CaretSql
