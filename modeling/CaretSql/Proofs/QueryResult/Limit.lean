import CaretSql.Engine.Scripted
import CaretSql.Engine.Postgres.Reply
import CaretSql.Proofs.Controller.Operation
import CaretSql.Proofs.Feed.Evict

/-! What a limit leaves of a result set. The engines cut their rows in different ways, before or after
they count them, and come to the same result; the notification of it counts all rows, however few of
them are left. -/

namespace CaretSql

variable {limit : Nat} {query : List Char} {columns : List Column}

namespace QueryResult

variable {r : QueryResult}

/-- a result set under a limit: its first rows, and how many there were -/
def limited (limit : Nat) (query : List Char) (columns : List Column) (rows : List (List Value))
    (timings : Timings) : QueryResult where
  query
  kind := .dql
  columns
  rows := rows.take (min limit rows.length)
  rowCount := rows.length
  wasTruncated := limit < rows.length
  timings := some timings

theorem truncatedTo_of_lt (h : limit < r.rows.length) :
    r.truncatedTo limit = { r with rows := r.rows.take limit, wasTruncated := true } := if_pos h

theorem truncatedTo_of_le (h : r.rows.length ≤ limit) : r.truncatedTo limit = r :=
  if_neg (Nat.not_lt_of_le h)

theorem truncatedTo_truncatedTo (a b : Nat) (r : QueryResult) :
    (r.truncatedTo a).truncatedTo b = r.truncatedTo (min a b) := by
  rcases Nat.lt_or_ge a r.rows.length with ha | ha
  · have hlength : (r.rows.take a).length = a := List.length_take_of_le (Nat.le_of_lt ha)
    rw [truncatedTo_of_lt ha]
    rcases Nat.lt_or_ge b a with hb | hb
    · rw [truncatedTo_of_lt (by rwa [hlength]), Nat.min_eq_right (Nat.le_of_lt hb),
        truncatedTo_of_lt (Nat.lt_trans hb ha), List.take_take, Nat.min_eq_left (Nat.le_of_lt hb)]
    · rw [truncatedTo_of_le (by rwa [hlength]), Nat.min_eq_left hb, truncatedTo_of_lt ha]
  · rw [truncatedTo_of_le ha]
    rcases Nat.lt_or_ge b r.rows.length with hb | hb
    · rw [Nat.min_eq_right (by omega)]
    · rw [truncatedTo_of_le hb, truncatedTo_of_le (by omega)]

theorem truncatedTo_dql (limit : Nat) (query : List Char) (columns : List Column)
    (rows : List (List Value)) (timings : Timings) :
    ((dql query columns rows).truncatedTo limit).withTimings timings =
      limited limit query columns rows timings := by
  rcases Nat.lt_or_ge limit rows.length with h | h
  · rw [truncatedTo_of_lt h, limited, Nat.min_eq_left (Nat.le_of_lt h)]
    simp only [h, decide_true]
    rfl
  · rw [truncatedTo_of_le h, limited, Nat.min_eq_right h, List.take_length]
    simp only [Nat.not_lt_of_le h, decide_false]
    rfl

end QueryResult

theorem Postgres.table_eq_limited {cells : List (List Cell)} (hne : cells ≠ []) (timings : Timings) :
    (table limit query columns cells).withTimings timings =
      .limited limit query columns (cells.map (convertRow columns)) timings := by
  obtain ⟨first, rest, rfl⟩ := List.exists_cons_of_ne_nil hne
  have hrows : ((first :: rest).take limit).map (convertRow columns) =
      ((first :: rest).map (convertRow columns)).take (min limit (rest.length + 1)) := by
    rw [List.map_take, List.take_eq_take_min, List.length_map, List.length_cons]
  simp only [table, QueryResult.limited, hrows, List.length_map, List.length_cons]
  rfl

/-- Both engines make the same result set of the same rows under a limit, none of them at all if the
limit is zero; two limits one after the other are as good as the smaller one; and the notification
that a run of such a result leaves counts all rows, whatever the limit. -/
theorem row_limits_agree (limit : Nat) (query : List Char) (columns : List Column) :
    (∀ (e : Scripted.Engine) (rows : List (List Value)), e.response query = .rows columns rows →
      e.outcome limit query = .ok (.limited limit query columns rows e.timings)) ∧
      (∀ (seconds : Nat) (timings : Timings) (cells : List (List Postgres.Cell)), cells ≠ [] →
        Postgres.outcome seconds limit timings query (.rows columns cells) =
          .ok (.limited limit query columns (cells.map (Postgres.convertRow columns)) timings)) ∧
      (∀ (r : QueryResult) (a b : Nat), (r.truncatedTo a).truncatedTo b = r.truncatedTo (min a b)) ∧
      ∀ (c : Controller) (run : Run) (now : Nat) (rows : List (List Value)) (timings : Timings),
        c.inFlight = some run →
        ∃ n, (c.complete now run.id (.ok (.limited limit query columns rows timings))).1 =
            some (.succeeded (.limited limit query columns rows timings) n.id) ∧
          (c.complete now run.id
            (.ok (.limited limit query columns rows timings))).2.feed.state.notifications.head? =
              some n ∧
          n.title = String.ofList run.request.query ∧
          n.kind = .success ∧ n.detail = some (.summary rows.length (some timings)) := by
  refine ⟨?_, ?_, fun r a b => r.truncatedTo_truncatedTo a b, ?_⟩
  · intro e rows hscript
    rw [Scripted.Engine.outcome, hscript]
    exact congrArg Except.ok (QueryResult.truncatedTo_dql limit query columns rows e.timings)
  · intro seconds timings cells hne
    exact congrArg Except.ok (Postgres.table_eq_limited hne timings)
  · intro c run now rows timings hrun
    have hnewest := Controller.newest_notice hrun now
      (.ok (.limited limit query columns rows timings))
    rw [Controller.complete_of_ok hrun] at hnewest ⊢
    exact ⟨_, rfl, hnewest, rfl, rfl, rfl⟩

/-- A number and NULL under a limit of one. -/
theorem row_limits_agree_on_two_rows :
    let columns : List Column := [⟨"n", "INT4"⟩]
    let rows : List (List Value) := [[.int 1], [.null]]
    let instant : Timings := ⟨⟨0⟩, ⟨0⟩⟩
    let e : Scripted.Engine := { script := [([], .rows columns rows)] }
    let kept : QueryResult := ⟨[], .dql, columns, [[.int 1]], 2, true, some instant⟩
    let c : Controller :=
      { editor := { text := [] }, feed := .empty 0 ⟨145, 70⟩, inFlight := some ⟨1, ⟨[], 1, 0⟩⟩ }
    e.outcome 1 [] = .ok kept ∧
      Postgres.outcome 30 1 instant [] (.rows columns [[some [0, 0, 0, 1]], [none]]) = .ok kept ∧
      (c.complete 0 1 (.ok kept)).2.feed.state.notifications.head?.bind Notification.detail =
        some (.summary 2 (some instant)) := by
  intro columns rows instant e kept c
  have hcells : [[some [0, 0, 0, 1]], [none]].map (Postgres.convertRow columns) = rows := by
    decide +kernel
  obtain ⟨hscripted, hpostgres, -, hnotice⟩ := row_limits_agree 1 [] columns
  have hpostgres := hpostgres 30 instant [[some [0, 0, 0, 1]], [none]] nofun
  rw [hcells] at hpostgres
  obtain ⟨n, -, hnewest, -, -, hdetail⟩ := hnotice c ⟨1, ⟨[], 1, 0⟩⟩ 0 rows instant rfl
  refine ⟨hscripted e rows rfl, hpostgres, ?_⟩
  exact (congrArg (fun newest => newest.bind Notification.detail) hnewest).trans hdetail

end CaretSql
