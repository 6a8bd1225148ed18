import CaretSql.Proofs.Document.Nearest
import CaretSql.Proofs.Editor.Places
import CaretSql.Proofs.Request.Sweep

/-! What a selection runs: the text between the offsets of its ends, in whichever order they were
given, or what a caret there runs if that is nothing. Only the offsets count, so an editor, which
moves both ends to places of its text, runs what the ends as they were given would run. -/

namespace CaretSql

def Anchor.clamped (d : Document) : Anchor → Anchor
  | .caret p => .caret (d.clamp p)
  | .selection r => .selection ⟨d.clamp r.start, d.clamp r.stop⟩

namespace Document

variable {d : Document} {r : TextRange}

theorem offsetOf_clamp (d : Document) (p : Position) : d.offsetOf (d.clamp p) = d.offsetOf p :=
  d.offsetOf_positionOf (d.offsetOf_le_length p)

/-- Putting the ends of the range in order puts their offsets in order. -/
structure OrdersOffsets (d : Document) (r : TextRange) : Prop where
  start : d.offsetOf r.normalized.start = min (d.offsetOf r.start) (d.offsetOf r.stop)
  stop : d.offsetOf r.normalized.stop = max (d.offsetOf r.start) (d.offsetOf r.stop)

theorem ordersOffsets_of_isPlace (hstart : d.IsPlace r.start) (hstop : d.IsPlace r.stop) :
    d.OrdersOffsets r :=
  ⟨(offsetOf_normalized hstart hstop).1, (offsetOf_normalized hstart hstop).2⟩

theorem ordersOffsets_of_rows (hrows : 1 ≤ r.start.row ∧ 1 ≤ r.stop.row) : d.OrdersOffsets r := by
  by_cases h : r.stop < r.start
  · have hle : d.offsetOf r.stop ≤ d.offsetOf r.start :=
      offsetOf_mono hrows.2 (Position.lt_asymm h)
    have hnormalized : r.normalized = ⟨r.stop, r.start⟩ := if_pos h
    constructor
    · rw [hnormalized, Nat.min_eq_right hle]
    · rw [hnormalized, Nat.max_eq_left hle]
  · have hle : d.offsetOf r.start ≤ d.offsetOf r.stop := offsetOf_mono hrows.1 h
    have hnormalized : r.normalized = r := if_neg h
    constructor
    · rw [hnormalized, Nat.min_eq_left hle]
    · rw [hnormalized, Nat.max_eq_right hle]

end Document

namespace Request

variable {d : Document} {r : TextRange} {p : Position}

def ofSpan? (d : Document) (start stop : Nat) : Option Request :=
  if start = stop then ofOffset? d start else some (ofSlice d start stop)

theorem ofCaret?_eq_ofOffset? (d : Document) (p : Position) :
    ofCaret? d p = ofOffset? d (d.offsetOf p) := by
  change _ = ofCaret? d (d.positionOf (d.offsetOf p))
  rw [ofCaret?, ofCaret?, d.offsetOf_positionOf (d.offsetOf_le_length p)]

theorem extract?_caret (d : Document) (p : Position) :
    extract? d (.caret p) = ofOffset? d (d.offsetOf p) := ofCaret?_eq_ofOffset? d p

theorem extract?_of_isEmpty (h : r.isEmpty = true) :
    extract? d (.selection r) = ofCaret? d r.start := by
  have hnormalized : (Anchor.selection r).normalized = .caret r.start := if_pos h
  rw [extract?, hnormalized]

theorem extract?_of_not_isEmpty (h : ¬ r.isEmpty = true) :
    extract? d (.selection r) = ofSelection? d r.normalized := by
  have hnormalized : (Anchor.selection r).normalized = .selection r.normalized := if_neg h
  rw [extract?, hnormalized]

theorem extract?_selection (h : d.OrdersOffsets r) :
    extract? d (.selection r) =
      ofSpan? d (min (d.offsetOf r.start) (d.offsetOf r.stop))
        (max (d.offsetOf r.start) (d.offsetOf r.stop)) := by
  by_cases hempty : r.isEmpty = true
  · have hends : r.start = r.stop := by simpa [TextRange.isEmpty] using hempty
    rw [extract?_of_isEmpty hempty, ← hends, Nat.min_self, Nat.max_self, ofSpan?, if_pos rfl,
      ofCaret?_eq_ofOffset?]
  · rw [extract?_of_not_isEmpty hempty, ofSelection?, ofSpan?, ofCaret?_eq_ofOffset?, h.start,
      h.stop]

theorem extract?_between {start stop : Nat} (hlt : start < stop) (hle : stop ≤ d.length) :
    extract? d (.selection ⟨d.positionOf start, d.positionOf stop⟩) =
      some (ofSlice d start stop) := by
  have horders : d.OrdersOffsets ⟨d.positionOf start, d.positionOf stop⟩ :=
    Document.ordersOffsets_of_isPlace (d.isPlace_positionOf start) (d.isPlace_positionOf stop)
  rw [extract?_selection horders, d.offsetOf_positionOf hle,
    d.offsetOf_positionOf (Nat.le_of_lt (Nat.lt_of_lt_of_le hlt hle)), ofSpan?]
  rw [Nat.min_eq_left (Nat.le_of_lt hlt), Nat.max_eq_right (Nat.le_of_lt hlt),
    if_neg (Nat.ne_of_lt hlt)]

theorem extract?_clamped_caret (d : Document) (p : Position) :
    extract? d ((Anchor.caret p).clamped d) = extract? d (.caret p) := by
  rw [Anchor.clamped, extract?_caret, extract?_caret, d.offsetOf_clamp]

theorem extract?_clamped_selection (h : d.OrdersOffsets r) :
    extract? d ((Anchor.selection r).clamped d) = extract? d (.selection r) := by
  have hclamped : d.OrdersOffsets ⟨d.clamp r.start, d.clamp r.stop⟩ :=
    Document.ordersOffsets_of_isPlace (d.isPlace_clamp _) (d.isPlace_clamp _)
  rw [Anchor.clamped, extract?_selection hclamped, extract?_selection h, d.offsetOf_clamp,
    d.offsetOf_clamp]

end Request

namespace Editor

variable {r : TextRange}

theorem extract?_moveCaret (e : Editor) (p : Position) :
    Request.extract? (e.moveCaret p).document (e.moveCaret p).anchor =
      Request.extract? e.document (.caret p) :=
  Request.extract?_clamped_caret e.document p

theorem Alike.extract? {e e' : Editor} (h : Alike e e') :
    Request.extract? e'.document e'.anchor = Request.extract? e.document e.anchor := by
  have hanchor : e'.anchor = e.anchor := by
    unfold anchor
    rw [h.selection, h.caret]
  rw [h.document, hanchor]

theorem extract?_anchor {e : Editor} (h : e.selection = some r) (hcaret : r.stop = e.caret) :
    Request.extract? e.document e.anchor = Request.extract? e.document (.selection r) := by
  rw [anchor, h]
  dsimp only
  split
  · next hempty =>
    have hends : r.start = r.stop := by simpa [TextRange.isEmpty] using hempty
    rw [Request.extract?_of_isEmpty hempty, hends, hcaret]
    rfl
  · rfl

theorem extract?_select {e : Editor} (h : e.document.OrdersOffsets r) :
    Request.extract? (e.select r).document (e.select r).anchor =
      Request.extract? e.document (.selection r) :=
  (extract?_anchor (e := e.select r) rfl rfl).trans (Request.extract?_clamped_selection h)

/-- An editor in which the text between two offsets is selected runs that text. -/
theorem extract?_select_between {e : Editor} {start stop : Nat} (hlt : start < stop)
    (hle : stop ≤ e.document.length) :
    let selected := e.select ⟨e.document.positionOf start, e.document.positionOf stop⟩
    Request.extract? selected.document selected.anchor =
      some (Request.ofSlice e.document start stop) := by
  intro selected
  rw [extract?_select (Document.ordersOffsets_of_isPlace (e.document.isPlace_positionOf start)
    (e.document.isPlace_positionOf stop))]
  exact Request.extract?_between hlt hle

end Editor

namespace Request

variable {d : Document} {anchor : Anchor} {answer : Option Request}

theorem checkedExtract_eq_ok :
    checkedExtract d anchor = .ok answer ↔
      (∀ p ∈ anchor.places, d.Fits p) ∧ extract? d anchor = answer := Document.checked_eq_ok

theorem checkedExtract_eq_error :
    checkedExtract d anchor = .error ⟨⟩ ↔ ∃ p ∈ anchor.places, ¬ d.Fits p :=
  Document.checked_eq_error

theorem checkedExtract_clamped (h : ∀ p ∈ anchor.places, d.Fits p)
    (heq : extract? d (anchor.clamped d) = extract? d anchor) :
    checkedExtract d (anchor.clamped d) = checkedExtract d anchor := by
  have hclamp (p : Position) : d.Fits (d.clamp p) := (d.inText_positionOf _).fits
  rw [checkedExtract_eq_ok.mpr ⟨h, rfl⟩, checkedExtract_eq_ok]
  refine ⟨?_, heq⟩
  cases anchor with
  | caret p => simp [Anchor.clamped, Anchor.places, hclamp]
  | selection r => simp [Anchor.clamped, Anchor.places, hclamp]

end Request

open Request

/-- A selection whose ends have offsets runs as it stands, whichever of its ends was given first and
wherever they lie: all that is between the offsets, from the place where it begins, or what a caret
there runs if that is nothing. The nearest places of its ends make the same selection, and so does an
editor in which it is made. A selection with an end that has no offset runs nothing, and the program
ends. -/
theorem selection_runs_verbatim {d : Document} {a b : Position} (ha : 1 ≤ a.row) (hb : 1 ≤ b.row) :
    (∀ oa ob, d.checkedOffset a = .ok oa → d.checkedOffset b = .ok ob →
      let lo := min oa ob
      let hi := max oa ob
      (lo < hi → ∃ r, checkedExtract d (.selection ⟨a, b⟩) = .ok (some r) ∧
        checkedExtract d (.selection ⟨b, a⟩) = .ok (some r) ∧ r.query = d.slice lo hi ∧
        r.query.length = hi - lo ∧ r.origin = d.positionOf lo) ∧
      (lo = hi → ∃ answer, checkedExtract d (.selection ⟨a, b⟩) = .ok answer ∧
        checkedExtract d (.selection ⟨b, a⟩) = .ok answer ∧
        checkedExtract d (.caret (d.positionOf lo)) = .ok answer) ∧
      (∀ anchor ∈ [.caret a, .selection ⟨a, b⟩, .selection ⟨b, a⟩],
        checkedExtract d (anchor.clamped d) = checkedExtract d anchor) ∧
      ∀ e : Editor, e.document = d → ∃ e' answer, e.checkedSelect ⟨a, b⟩ = .ok e' ∧
        extract? e'.document e'.anchor = answer ∧
        checkedExtract d (.selection ⟨a, b⟩) = .ok answer) ∧
    (d.checkedOffset a = .error ⟨⟩ ∨ d.checkedOffset b = .error ⟨⟩ →
      checkedExtract d (.selection ⟨a, b⟩) = .error ⟨⟩ ∧
        checkedExtract d (.selection ⟨b, a⟩) = .error ⟨⟩) := by
  have hforward : d.OrdersOffsets ⟨a, b⟩ := Document.ordersOffsets_of_rows ⟨ha, hb⟩
  have hback : d.OrdersOffsets ⟨b, a⟩ := Document.ordersOffsets_of_rows ⟨hb, ha⟩
  constructor
  · intro oa ob hoa hob lo hi
    obtain ⟨hfita, rfl⟩ := Document.checkedOffset_eq_ok.mp hoa
    obtain ⟨hfitb, rfl⟩ := Document.checkedOffset_eq_ok.mp hob
    have hends : ∀ p ∈ (Anchor.selection ⟨a, b⟩).places, d.Fits p := by
      simp [Anchor.places, hfita, hfitb]
    have hends' : ∀ p ∈ (Anchor.selection ⟨b, a⟩).places, d.Fits p := by
      simp [Anchor.places, hfita, hfitb]
    have hruns : extract? d (.selection ⟨a, b⟩) = ofSpan? d lo hi := extract?_selection hforward
    have hruns' : extract? d (.selection ⟨b, a⟩) = ofSpan? d lo hi := by
      rw [extract?_selection hback, Nat.min_comm, Nat.max_comm]
    refine ⟨?_, ?_, ?_, ?_⟩
    · intro hlt
      have hhi : hi ≤ d.length := Nat.max_le.mpr ⟨d.offsetOf_le_length a, d.offsetOf_le_length b⟩
      have hspan : ofSpan? d lo hi = some (ofSlice d lo hi) := if_neg (Nat.ne_of_lt hlt)
      refine ⟨_, checkedExtract_eq_ok.mpr ⟨hends, hruns.trans hspan⟩,
        checkedExtract_eq_ok.mpr ⟨hends', hruns'.trans hspan⟩, rfl, ?_, rfl⟩
      exact (d.length_slice lo hi).trans (by rw [Nat.min_eq_left hhi])
    · intro heq
      have hspan : ofSpan? d lo hi = extract? d (.caret (d.positionOf lo)) := if_pos heq
      have hcaret : ∀ p ∈ (Anchor.caret (d.positionOf lo)).places, d.Fits p := by
        simp [Anchor.places, (d.inText_positionOf lo).fits]
      exact ⟨_, checkedExtract_eq_ok.mpr ⟨hends, hruns.trans hspan⟩,
        checkedExtract_eq_ok.mpr ⟨hends', hruns'.trans hspan⟩,
        checkedExtract_eq_ok.mpr ⟨hcaret, rfl⟩⟩
    · intro anchor hmem
      simp only [List.mem_cons, List.not_mem_nil, or_false] at hmem
      rcases hmem with rfl | rfl | rfl
      · exact checkedExtract_clamped (by simp [Anchor.places, hfita]) (extract?_clamped_caret d a)
      · exact checkedExtract_clamped hends (extract?_clamped_selection hforward)
      · exact checkedExtract_clamped hends' (extract?_clamped_selection hback)
    · rintro e rfl
      exact ⟨_, _, Document.checked_eq_ok.mpr ⟨hends, rfl⟩, Editor.extract?_select hforward,
        checkedExtract_eq_ok.mpr ⟨hends, rfl⟩⟩
  · rw [Document.checkedOffset_eq_error, Document.checkedOffset_eq_error, checkedExtract_eq_error,
      checkedExtract_eq_error]
    simp only [Anchor.places, List.mem_cons, List.not_mem_nil, or_false, exists_eq_or_imp,
      exists_eq_left]
    exact fun h => ⟨h, h.symm⟩

/-- Made backwards, from far behind the text to the blank before its second delimiter. -/
theorem selection_runs_verbatim_backwards :
    let d : Document := ⟨['1', ';', '\n', ' ', ';', '2']⟩
    1 ≤ (⟨9, 4⟩ : Position).row ∧ 1 ≤ (⟨2, 0⟩ : Position).row ∧
      d.checkedOffset ⟨9, 4⟩ = .ok 6 ∧ d.checkedOffset ⟨2, 0⟩ = .ok 3 ∧
      ∃ r, checkedExtract d (.selection ⟨⟨9, 4⟩, ⟨2, 0⟩⟩) = .ok (some r) ∧
        r.query = [' ', ';', '2'] ∧ r.origin = ⟨2, 0⟩ := by
  intro d
  have hfar : d.checkedOffset ⟨9, 4⟩ = .ok 6 := by decide
  have hnear : d.checkedOffset ⟨2, 0⟩ = .ok 3 := by decide
  obtain ⟨hruns, -, -, -⟩ := (selection_runs_verbatim (d := d) (a := ⟨9, 4⟩) (b := ⟨2, 0⟩) (by decide)
    (by decide)).1 6 3 hfar hnear
  obtain ⟨r, hr, -, hquery, -, horigin⟩ := hruns (by decide)
  exact ⟨by decide, by decide, hfar, hnear, r, hr, hquery.trans (by decide),
    horigin.trans (by decide)⟩

/-- A selection that ends at the last column but one of the second row is refused, though it holds the
row. -/
theorem far_selection_is_refused :
    ¬ ∀ (d : Document) (a b : Position), 1 ≤ a.row → 1 ≤ b.row →
      a.column < wordSize → b.column < wordSize → d.offsetOf a < d.offsetOf b →
      ∃ r, checkedExtract d (.selection ⟨a, b⟩) = .ok (some r) ∧
        r.query = d.slice (d.offsetOf a) (d.offsetOf b) := by
  intro h
  obtain ⟨r, hr, -⟩ := h ⟨['a', '\n', 'b']⟩ ⟨1, 1⟩ ⟨2, wordSize - 2⟩ (by decide) (by decide)
    (by decide) (by decide) (by decide +kernel)
  have hrefused : checkedExtract ⟨['a', '\n', 'b']⟩ (.selection ⟨⟨1, 1⟩, ⟨2, wordSize - 2⟩⟩) =
      .error ⟨⟩ := by decide +kernel
  cases hrefused.symm.trans hr

end CaretSql
