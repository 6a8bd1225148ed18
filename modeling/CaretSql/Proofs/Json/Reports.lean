import CaretSql.Json.Notifications
import CaretSql.Proofs.Json.Record

/-! Results and feeds as JSON and back. Everything comes back as it was, but for a duration that no
word holds, of which the lower part comes back. -/

namespace CaretSql

open Json (Record)

namespace Duration

def wrapped (d : Duration) : Duration := ⟨d.nanoseconds % wordSize⟩

theorem ofJson?_toJson (d : Duration) : ofJson? d.toJson = some d.wrapped := by
  rw [toJson, ofJson?, Json.word?_nat (Nat.mod_lt _ (by decide)), Option.map_some, wrapped]

end Duration

namespace Timings

variable {t : Timings}

def wrapped (t : Timings) : Timings := ⟨t.execute.wrapped, t.fetch.wrapped⟩

structure Short (t : Timings) : Prop where
  execute : t.execute.nanoseconds < wordSize
  fetch : t.fetch.nanoseconds < wordSize

instance : DecidablePred Short := fun _ =>
  decidable_of_iff (_ ∧ _) ⟨fun h => ⟨h.1, h.2⟩, fun h => ⟨h.execute, h.fetch⟩⟩

theorem Short.wrapped_eq (h : t.Short) : t.wrapped = t := by
  rw [wrapped, Duration.wrapped, Duration.wrapped, Nat.mod_eq_of_lt h.execute,
    Nat.mod_eq_of_lt h.fetch]

theorem map_wrapped {o : Option Timings} (h : ∀ t ∈ o, t.Short) : o.map wrapped = o := by
  cases o with
  | none => rfl
  | some t => rw [Option.map_some, (h t rfl).wrapped_eq]

theorem ofJson?_toJson (t : Timings) : ofJson? t.toJson = some t.wrapped := by
  rw [toJson, ofJson?, Record.bind_object]
  refine Record.bind_required rfl t.execute.ofJson?_toJson ?_
  refine Record.bind_required rfl t.fetch.ofJson?_toJson ?_
  rfl

theorem toJson_ne_null (t : Timings) : t.toJson ≠ .null := nofun

end Timings

namespace Value

variable {v : Value}

/-- a value as its type holds it, and finite if it is a floating-point number -/
def Representable : Value → Prop
  | .int i => -Nat.pow 2 63 ≤ i ∧ i < Nat.pow 2 63
  | .float x => x.isFinite = true
  | _ => True

instance : DecidablePred Representable := fun
  | .int i => inferInstanceAs (Decidable (-Nat.pow 2 63 ≤ i ∧ i < Nat.pow 2 63))
  | .float x => inferInstanceAs (Decidable (x.isFinite = true))
  | .null | .bool _ | .string _ | .bytes _ => .isTrue trivial

theorem byte?_nat (b : UInt8) : byte? (.nat b.toNat) = some b := by
  rw [byte?, Json.natBelow?_nat b.toNat_lt, Option.map_some, UInt8.ofNat_toNat]

theorem ofJson?_toJson (h : v.Representable) : ofJson? v.toJson = some v := by
  cases v with
  | null => rfl
  | bool b => rfl
  | int i =>
    have hread : int64? (.int i) = some i := if_pos h
    exact congrArg (Option.map Value.int) hread
  | float x =>
    have hfinite : x.isFinite = true := h
    rw [toJson, if_pos hfinite]
    rfl
  | string s => rfl
  | bytes b =>
    have hread : Json.list? byte? (.list (fun x => .nat x.toNat) b) = some (b.map id) :=
      Json.list?_list fun x _ => byte?_nat x
    rw [List.map_id] at hread
    exact congrArg (Option.map Value.bytes) hread

end Value

namespace Column

theorem ofJson?_toJson (c : Column) : ofJson? c.toJson = some c := by
  rw [toJson, ofJson?, Record.bind_object]
  refine Record.bind_required rfl rfl ?_
  refine Record.bind_required rfl rfl ?_
  rfl

end Column

namespace ResultKind

theorem ofJson?_toJson (k : ResultKind) : ofJson? k.toJson = some k := by
  cases k <;> rfl

end ResultKind

namespace QueryResult

variable {r : QueryResult}

def wrapped (r : QueryResult) : QueryResult := { r with timings := r.timings.map Timings.wrapped }

/-- Every value is in the range of its type, and so is the number of rows. -/
structure Representable (r : QueryResult) : Prop where
  values : ∀ row ∈ r.rows, ∀ v ∈ row, v.Representable
  rowCount : r.rowCount < wordSize

instance : DecidablePred Representable := fun _ =>
  decidable_of_iff (_ ∧ _) ⟨fun h => ⟨h.1, h.2⟩, fun h => ⟨h.values, h.rowCount⟩⟩

theorem wrapped_eq (h : ∀ t ∈ r.timings, t.Short) : r.wrapped = r := by
  rw [wrapped, Timings.map_wrapped h]

theorem ofJson?_toJson (h : r.Representable) : ofJson? r.toJson = some r.wrapped := by
  have hcolumns := Json.list?_list (f := id) fun c (_ : c ∈ r.columns) => c.ofJson?_toJson
  have hrow : ∀ row ∈ r.rows, Json.list? Value.ofJson? (.list Value.toJson row) = some (id row) := by
    intro row hrow
    have hread := Json.list?_list (f := id) fun v hv => Value.ofJson?_toJson (h.values row hrow v hv)
    rwa [List.map_id] at hread
  have hrows := Json.list?_list hrow
  rw [List.map_id] at hcolumns hrows
  have htimings := Json.option?_ofOption (o := r.timings) Timings.toJson_ne_null
    fun t _ => t.ofJson?_toJson
  rw [toJson, ofJson?, Record.bind_object]
  refine Record.bind_required rfl (Json.chars?_text r.query) ?_
  refine Record.bind_required rfl r.kind.ofJson?_toJson ?_
  refine Record.bind_withDefault rfl hcolumns ?_
  refine Record.bind_withDefault rfl hrows ?_
  refine Record.bind_required rfl (Json.word?_nat h.rowCount) ?_
  refine Record.bind_withDefault rfl rfl ?_
  refine Record.bind_optional rfl htimings ?_
  rfl

end QueryResult

theorem NotificationKind.ofJson?_toJson (k : NotificationKind) : ofJson? k.toJson = some k := by
  cases k <;> rfl

namespace NotificationDetail

variable {d : NotificationDetail}

def wrapped : NotificationDetail → NotificationDetail
  | .summary rowCount timings => .summary rowCount (timings.map Timings.wrapped)
  | .message text => .message text

def timings? : NotificationDetail → Option Timings
  | .summary _ timings => timings
  | .message _ => none

def Representable : NotificationDetail → Prop
  | .summary rowCount _ => rowCount < wordSize
  | .message _ => True

instance : DecidablePred Representable := fun
  | .summary rowCount _ => inferInstanceAs (Decidable (rowCount < wordSize))
  | .message _ => .isTrue trivial

theorem wrapped_eq (h : ∀ t ∈ d.timings?, t.Short) : d.wrapped = d := by
  cases d with
  | summary rowCount timings =>
    have hshort : ∀ t ∈ timings, t.Short := h
    rw [wrapped, Timings.map_wrapped hshort]
  | message text => rfl

theorem ofJson?_toJson (h : d.Representable) : ofJson? d.toJson = some d.wrapped := by
  cases d with
  | summary rowCount timings =>
    have htimings := Json.option?_ofOption (o := timings) Timings.toJson_ne_null
      fun t _ => t.ofJson?_toJson
    change summaryOfJson? (.object _) = _
    rw [summaryOfJson?, Record.bind_object]
    refine Record.bind_required rfl (Json.word?_nat h) ?_
    refine Record.bind_optional rfl htimings ?_
    rfl
  | message text => rfl

theorem toJson_ne_null (d : NotificationDetail) : d.toJson ≠ .null := by
  cases d <;> nofun

end NotificationDetail

namespace Notification

variable {n : Notification}

def wrapped (n : Notification) : Notification :=
  { n with detail := n.detail.map NotificationDetail.wrapped }

def timings? (n : Notification) : Option Timings := n.detail.bind NotificationDetail.timings?

/-- The id is a word, the height half a word, and the rows are counted by a word. -/
structure Representable (n : Notification) : Prop where
  id : n.id < wordSize
  height : n.height < Nat.pow 2 32
  detail : ∀ d ∈ n.detail, d.Representable

instance : DecidablePred Representable := fun _ =>
  decidable_of_iff (_ ∧ _ ∧ _)
    ⟨fun h => ⟨h.1, h.2.1, h.2.2⟩, fun h => ⟨h.id, h.height, h.detail⟩⟩

theorem wrapped_eq (h : ∀ t ∈ n.timings?, t.Short) : n.wrapped = n := by
  have hdetail : n.detail.map NotificationDetail.wrapped = n.detail := by
    unfold timings? at h
    cases hd : n.detail with
    | none => rfl
    | some d =>
      rw [hd, Option.bind_some] at h
      rw [Option.map_some, NotificationDetail.wrapped_eq h]
  rw [wrapped, hdetail]

theorem contentOfJson?_contentJson (h : n.Representable) :
    contentOfJson? n.contentJson = some (n.title, n.wrapped.detail) := by
  have hdetail := Json.option?_ofOption NotificationDetail.toJson_ne_null fun d hd =>
    NotificationDetail.ofJson?_toJson (h.detail d hd)
  rw [contentJson, contentOfJson?, Record.bind_object]
  refine Record.bind_required rfl rfl ?_
  refine Record.bind_optional rfl hdetail ?_
  rfl

theorem ofJson?_toJson (h : n.Representable) : ofJson? n.toJson = some n.wrapped := by
  rw [toJson, ofJson?, Record.bind_object]
  refine Record.bind_required rfl (Json.word?_nat h.id) ?_
  refine Record.bind_required rfl n.kind.ofJson?_toJson ?_
  refine Record.bind_required rfl (Json.natBelow?_nat h.height) ?_
  refine Record.bind_required rfl (contentOfJson?_contentJson h) ?_
  rfl

end Notification

namespace FeedState

variable {s : FeedState}

def wrapped (s : FeedState) : FeedState :=
  { s with notifications := s.notifications.map Notification.wrapped }

structure Representable (s : FeedState) : Prop where
  notifications : ∀ n ∈ s.notifications, n.Representable
  maxHeight : s.maxHeight < Nat.pow 2 32

instance : DecidablePred Representable := fun _ =>
  decidable_of_iff (_ ∧ _) ⟨fun h => ⟨h.1, h.2⟩, fun h => ⟨h.notifications, h.maxHeight⟩⟩

theorem wrapped_eq (h : ∀ n ∈ s.notifications, ∀ t ∈ n.timings?, t.Short) : s.wrapped = s := by
  have hnotifications : s.notifications.map Notification.wrapped = s.notifications :=
    (List.map_congr_left fun n hn => Notification.wrapped_eq (h n hn)).trans (List.map_id _)
  rw [wrapped, hnotifications]

theorem ofJson?_toJson (h : s.Representable) : ofJson? s.toJson = some s.wrapped := by
  have hnotifications := Json.list?_list fun n hn =>
    Notification.ofJson?_toJson (h.notifications n hn)
  rw [toJson, ofJson?, Record.bind_object]
  refine Record.bind_required rfl hnotifications ?_
  refine Record.bind_required rfl (Json.natBelow?_nat h.maxHeight) ?_
  rfl

end FeedState

/-- Every result whose floating-point numbers are finite and every feed is read back from its JSON as
it was, if its durations are words. Of longer durations the lower word is read back, and of all else
what was written. -/
theorem reports_read_back :
    (∀ r : QueryResult, r.Representable →
      QueryResult.ofJson? r.toJson = some r.wrapped ∧
        ((∀ t ∈ r.timings, t.Short) → QueryResult.ofJson? r.toJson = some r)) ∧
      ∀ s : FeedState, s.Representable →
        FeedState.ofJson? s.toJson = some s.wrapped ∧
          ((∀ n ∈ s.notifications, ∀ t ∈ n.timings?, t.Short) →
            FeedState.ofJson? s.toJson = some s) := by
  constructor
  · intro r h
    have hread := QueryResult.ofJson?_toJson h
    refine ⟨hread, fun hshort => ?_⟩
    rw [hread, QueryResult.wrapped_eq hshort]
  · intro s h
    have hread := FeedState.ofJson?_toJson h
    refine ⟨hread, fun hshort => ?_⟩
    rw [hread, FeedState.wrapped_eq hshort]

/-- A value of each kind, and the notification of a run that takes a few nanoseconds, or so many more
that nothing of the difference is left in a word. -/
theorem reports_read_back_of_long_run :
    let values : List Value := [.null, .bool true, .int (-Nat.pow 2 63),
      .float ⟨0x8000000000000000⟩, .string "b", .bytes [255]]
    let result (execute : Nat) : QueryResult :=
      ⟨"SELECT".toList, .dql, [⟨"n", "INT4"⟩], [values, []], 3, true, some ⟨⟨execute⟩, ⟨1⟩⟩⟩
    let feed (execute : Nat) : FeedState :=
      ⟨[⟨1, .error, 70, "", some (.message "b")⟩,
        ⟨0, .success, 145, "SELECT", some (.summary 3 (some ⟨⟨execute⟩, ⟨1⟩⟩))⟩], 300⟩
    (QueryResult.ofJson? (result 5).toJson = some (result 5) ∧
      QueryResult.ofJson? (result (wordSize + 5)).toJson = some (result 5)) ∧
      FeedState.ofJson? (feed 5).toJson = some (feed 5) ∧
        FeedState.ofJson? (feed (wordSize + 5)).toJson = some (feed 5) := by
  intro values result feed
  obtain ⟨hresult, hfeed⟩ := reports_read_back
  have hresultLong : (result (wordSize + 5)).wrapped = result 5 := by decide
  have hfeedLong : (feed (wordSize + 5)).wrapped = feed 5 := by decide
  refine ⟨⟨(hresult _ (by decide)).2 (by decide), ?_⟩, (hfeed _ (by decide)).2 (by decide), ?_⟩
  · rw [(hresult _ (by decide)).1, hresultLong]
  · rw [(hfeed _ (by decide)).1, hfeedLong]

end CaretSql
