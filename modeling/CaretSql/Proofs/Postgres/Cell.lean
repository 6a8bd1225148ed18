import CaretSql.Engine.Postgres.Reply
import CaretSql.Proofs.Text.Percent
import Mathlib.Data.List.Forall2
import Mathlib.Tactic.Ring
import Mathlib.Tactic.SplitIfs

/-! What becomes of the cells of a result. The types that are known by name have six shapes between
them, and a value that is written in the shape of its type is read back as that value. All other
types are read as nothing, so that their values and NULL look the same. -/

namespace CaretSql.Postgres

/-- how the values of a type are written -/
inductive Shape
  | bool
  /-- a whole number with a sign, in so many bytes -/
  | int (size : Nat)
  | float32
  | float64
  | bytes
  | text
deriving DecidableEq

variable {shape : Shape} {value : Value} {bytes : List UInt8} {type : String} {size : Nat} {i : Int}

def knownTypes : List (List String × Shape) :=
  [(["BOOL", "BOOLEAN"], .bool), (["INT2", "SMALLINT"], .int 2),
    (["INT4", "INT", "INTEGER"], .int 4), (["INT8", "BIGINT"], .int 8),
    (["FLOAT4", "REAL"], .float32), (["FLOAT8", "DOUBLE PRECISION"], .float64), (["BYTEA"], .bytes),
    (textTypes, .text)]

def shape? (type : String) : Option Shape :=
  (knownTypes.find? (String.ofList (Character.toUpper type.toList) ∈ ·.1)).map (·.2)

def bigEndian : Nat → Nat → List UInt8
  | 0, _ => []
  | size + 1, n => UInt8.ofNat (n / 256 ^ size) :: bigEndian size n

namespace Shape

def read? : Shape → List UInt8 → Option Value
  | .bool, bytes => (bool? bytes).map .bool
  | .int size, bytes => (int? size bytes).map .int
  | .float32, bytes => (float32? bytes).map .float
  | .float64, bytes => (float64? bytes).map .float
  | .bytes, bytes => some (.bytes bytes)
  | .text, bytes => (Text.ofUtf8? bytes).map fun s => .string (String.ofList s)

/-- The server writes a value in this way: a truth value as a byte, a whole number as its two's
complement, a floating-point number as its bits and a text as its UTF-8. -/
inductive Writes : Shape → Value → List UInt8 → Prop
  | bool (b : Bool) : Writes .bool (.bool b) [if b then 1 else 0]
  | int {size : Nat} {i : Int} (hlow : -(256 ^ size : Nat) ≤ 2 * i)
    (hhigh : 2 * i < (256 ^ size : Nat)) :
    Writes (.int size) (.int i) (bigEndian size (i % (256 ^ size : Nat)).toNat)
  | float32 (bits : UInt32) : Writes .float32 (.float (.ofBits32 bits)) (bigEndian 4 bits.toNat)
  | float64 (x : Binary64) : Writes .float64 (.float x) (bigEndian 8 x.bits.toNat)
  | bytes (b : List UInt8) : Writes .bytes (.bytes b) b
  | text (s : String) : Writes .text (.string s) (Text.utf8 s.toList)

end Shape

theorem value?_eq (type : String) (bytes : List UInt8) :
    value? type bytes = (shape? type).bind (Shape.read? · bytes) := by
  unfold value? shape? knownTypes
  -- both look the name up in the same lists, in the same order
  simp only [List.find?_cons, List.find?_nil]
  split_ifs <;> simp_all [Shape.read?]

theorem length_bigEndian (size n : Nat) : (bigEndian size n).length = size := by
  induction size with
  | zero => rfl
  | succ size ih => rw [bigEndian, List.length_cons, ih]

theorem unsigned_acc (bytes : List UInt8) (acc : Nat) :
    bytes.foldl (fun n b => 256 * n + b.toNat) acc = acc * 256 ^ bytes.length + unsigned bytes := by
  induction bytes generalizing acc with
  | nil => simp [unsigned]
  | cons b bytes ih =>
    rw [unsigned, List.foldl_cons, List.foldl_cons, ih, ih (256 * 0 + b.toNat), List.length_cons,
      Nat.pow_succ]
    ring

theorem unsigned_cons (b : UInt8) (bytes : List UInt8) :
    unsigned (b :: bytes) = b.toNat * 256 ^ bytes.length + unsigned bytes := by
  rw [unsigned, List.foldl_cons, unsigned_acc, Nat.mul_zero, Nat.zero_add]

theorem unsigned_bigEndian (size n : Nat) : unsigned (bigEndian size n) = n % 256 ^ size := by
  induction size with
  | zero => simp [bigEndian, unsigned, Nat.mod_one]
  | succ size ih =>
    have hbyte : (UInt8.ofNat (n / 256 ^ size)).toNat = n / 256 ^ size % 256 := UInt8.toNat_ofNat'
    rw [bigEndian, unsigned_cons, length_bigEndian, ih, hbyte, Nat.mod_pow_succ]
    ring

theorem int?_bigEndian (hlow : -(256 ^ size : Nat) ≤ 2 * i) (hhigh : 2 * i < (256 ^ size : Nat)) :
    int? size (bigEndian size (i % (256 ^ size : Nat)).toNat) = some i := by
  have hpow : Nat.pow 256 size = 256 ^ size := rfl
  have hpos : 0 < 256 ^ size := Nat.pow_pos (by decide)
  unfold int?
  dsimp only
  rw [length_bigEndian, if_neg (not_not_intro rfl), unsigned_bigEndian, hpow]
  generalize 256 ^ size = w at *
  by_cases hneg : i < 0
  -- below zero the bytes are those of `w + i`, in the upper half of what they can hold
  · have hmod : i % (w : Int) = i + w := by
      rw [← Int.add_emod_right, Int.emod_eq_of_lt (by omega) (by omega)]
    have hlt : (i + w).toNat % w = (i + w).toNat := Nat.mod_eq_of_lt (by omega)
    rw [hmod, hlt, if_neg (by omega)]
    congr 1
    omega
  · have hmod : i % (w : Int) = i := Int.emod_eq_of_lt (by omega) (by omega)
    have hlt : i.toNat % w = i.toNat := Nat.mod_eq_of_lt (by omega)
    rw [hmod, hlt, if_pos (by omega)]
    congr 1
    omega

theorem float32?_bigEndian (bits : UInt32) :
    float32? (bigEndian 4 bits.toNat) = some (.ofBits32 bits) := by
  have hlt : bits.toNat < 256 ^ 4 := bits.toNat_lt
  rw [float32?, if_pos (length_bigEndian _ _), unsigned_bigEndian, Nat.mod_eq_of_lt hlt,
    UInt32.ofNat_toNat]

theorem float64?_bigEndian (x : Binary64) : float64? (bigEndian 8 x.bits.toNat) = some x := by
  have hlt : x.bits.toNat < 256 ^ 8 := x.bits.toNat_lt
  rw [float64?, if_pos (length_bigEndian _ _), unsigned_bigEndian, Nat.mod_eq_of_lt hlt,
    UInt64.ofNat_toNat]

theorem Shape.Writes.read? (h : shape.Writes value bytes) : shape.read? bytes = some value := by
  cases h with
  | bool b => cases b <;> rfl
  | int hlow hhigh => rw [Shape.read?, int?_bigEndian hlow hhigh, Option.map_some]
  | float32 bits => rw [Shape.read?, float32?_bigEndian, Option.map_some]
  | float64 x => rw [Shape.read?, float64?_bigEndian, Option.map_some]
  | bytes => rfl
  | text s => rw [Shape.read?, Text.Percent.ofUtf8?_utf8, Option.map_some, String.ofList_toList]

theorem Shape.Writes.isNull (h : shape.Writes value bytes) : value.isNull = false := by
  cases h <;> rfl

/-- The server sends such a cell in a column of this type: NULL, or a value in the shape of the
type. What the values of other types look like does not matter. -/
def Sent (type : String) (cell : Cell) : Prop :=
  ∀ bytes ∈ cell, ∀ shape ∈ shape? type, ∃ value, shape.Writes value bytes

theorem sent_null (type : String) : Sent type none := nofun

theorem sent_known (hshape : shape? type = some shape) (h : shape.Writes value bytes) :
    Sent type (some bytes) := by
  rintro _ ⟨⟩ other hother
  obtain rfl := Option.some.inj (hshape.symm.trans hother)
  exact ⟨value, h⟩

theorem sent_unknown (h : shape? type = none) (cell : Cell) : Sent type cell := by
  intro bytes _ shape hshape
  rw [h] at hshape
  cases hshape

/-- What a cell comes out as: as its value if the type is known, and else as nothing. -/
inductive Becomes (type : String) : Cell → Value → Prop
  | null : Becomes type none .null
  | known {shape : Shape} {value : Value} {bytes : List UInt8} (hshape : shape? type = some shape)
    (h : shape.Writes value bytes) : Becomes type (some bytes) value
  | unknown {bytes : List UInt8} (hshape : shape? type = none) : Becomes type (some bytes) .null

theorem becomes_convert (column : Column) {cell : Cell} (h : Sent column.dataType cell) :
    Becomes column.dataType cell (convert column cell) := by
  cases cell with
  | none => exact .null
  | some bytes =>
    rw [convert, Option.bind_some, value?_eq]
    cases hshape : shape? column.dataType with
    | none => exact .unknown hshape
    | some shape =>
      obtain ⟨value, hwrites⟩ := h bytes rfl shape hshape
      rw [Option.bind_some, hwrites.read?]
      exact .known hshape hwrites

theorem Becomes.isNull_iff {cell : Cell} (h : Becomes type cell value) :
    value.isNull = true ↔ cell = none ∨ shape? type = none := by
  cases h with
  | null => simp [Value.isNull]
  | known hshape hwrites => simp [hwrites.isNull, hshape]
  | unknown hshape => simp [Value.isNull, hshape]

theorem convertRow_eq (columns : List Column) (cells : List Cell) :
    convertRow columns cells = (columns.zip cells).map fun p => convert p.1 p.2 :=
  (List.map_zip_eq_zipWith (f := fun p => convert p.1 p.2)).symm

theorem rows_table (limit : Nat) (query : List Char) (columns : List Column)
    (rows : List (List Cell)) :
    (table limit query columns rows).rows = (rows.take limit).map (convertRow columns) := by
  cases rows with
  | nil =>
    rw [table, List.take_nil, List.map_nil]
    split <;> rfl
  | cons => rfl

/-- Of the rows that are kept, a value comes out as nothing if there was none and, which cannot be
told from that, if the type of its column is not known. Every other value comes out as it was
sent. -/
theorem null_iff_unknown_type {columns : List Column} {rows : List (List Cell)}
    (hsent : ∀ cells ∈ rows, ∀ p ∈ columns.zip cells, Sent p.1.dataType p.2) (seconds limit : Nat)
    (timings : Timings) (query : List Char) :
    ∃ result, outcome seconds limit timings query (.rows columns rows) = .ok result ∧
      List.Forall₂ (fun cells values => List.Forall₂ (fun p value =>
          Becomes p.1.dataType p.2 value ∧
          (value.isNull = true ↔ p.2 = none ∨ shape? p.1.dataType = none))
        (columns.zip cells) values) (rows.take limit) result.rows := by
  refine ⟨_, rfl, ?_⟩
  change List.Forall₂ _ _ (table limit query columns rows).rows
  rw [rows_table, List.forall₂_map_right_iff, List.forall₂_same]
  intro cells hcells
  rw [convertRow_eq, List.forall₂_map_right_iff, List.forall₂_same]
  intro p hp
  have hbecomes := becomes_convert p.1 (hsent cells (List.mem_of_mem_take hcells) p hp)
  exact ⟨hbecomes, hbecomes.isNull_iff⟩

example : ∀ type ∈ ["NUMERIC", "TIMESTAMPTZ", "UUID", "JSON", "INT4[]", "OID"],
    shape? type = none := by decide +kernel

/-- A number, a document and NULL. -/
theorem null_iff_unknown_type_of_json :
    let columns : List Column := [⟨"n", "INT4"⟩, ⟨"j", "JSON"⟩, ⟨"t", "TEXT"⟩]
    let cells : List Cell := [some [255, 255, 255, 254], some [123, 125], none]
    (∀ p ∈ columns.zip cells, Sent p.1.dataType p.2) ∧
      ∃ result values, outcome 30 1000 ⟨⟨0⟩, ⟨0⟩⟩ [] (.rows columns [cells]) = .ok result ∧
        result.rows = [values] ∧
        List.Forall₂ (fun p value => value.isNull = true ↔ p.2 = none ∨ shape? p.1.dataType = none)
          (columns.zip cells) values := by
  intro columns cells
  have hshape : shape? "INT4" = some (.int 4) := by decide +kernel
  have hnumber : Sent "INT4" (some [255, 255, 255, 254]) :=
    sent_known hshape (@Shape.Writes.int 4 (-2) (by decide) (by decide))
  have hsent : ∀ p ∈ columns.zip cells, Sent p.1.dataType p.2 := by
    intro p hp
    simp only [columns, cells, List.zip_cons_cons, List.zip_nil_right, List.mem_cons,
      List.not_mem_nil, or_false] at hp
    rcases hp with rfl | rfl | rfl
    · exact hnumber
    · exact sent_unknown (by decide +kernel) _
    · exact sent_null _
  obtain ⟨result, hok, hrows⟩ :=
    null_iff_unknown_type (List.forall_mem_singleton.mpr hsent) 30 1000 ⟨⟨0⟩, ⟨0⟩⟩ []
  obtain ⟨values, _, hrow, hnil, hvalues⟩ := List.forall₂_cons_left_iff.mp hrows
  rw [List.forall₂_nil_left_iff.mp hnil] at hvalues
  exact ⟨hsent, result, values, hok, hvalues, hrow.imp fun _ _ h => h.2⟩

/-- A document is a value, and comes out as none. -/
theorem json_comes_out_null :
    ¬ ∀ (column : Column) (cell : Cell), Sent column.dataType cell →
      (convert column cell).isNull = true → cell = none := by
  intro h
  have hunknown : shape? "JSON" = none := by decide +kernel
  have hsent : Sent "JSON" (some [123, 125]) := sent_unknown hunknown _
  have hnull : (convert ⟨"j", "JSON"⟩ (some [123, 125])).isNull = true :=
    (becomes_convert ⟨"j", "JSON"⟩ hsent).isNull_iff.mpr (Or.inr hunknown)
  exact Option.some_ne_none _ (h ⟨"j", "JSON"⟩ _ hsent hnull)

end CaretSql.Postgres
