import Voyager.Net.Columns
import Voyager.Redis.Falkor

namespace Voyager.Redis

open Net

namespace RespValue

def isNull : RespValue → Bool
  | .null | .bulkString none | .array none => true
  | _ => false

def fromUtf8 (b : Bytes) : Option String := String.fromUTF8? ⟨b.toArray⟩

def ofText {α : Type} (read : String → Option α) : RespValue → Option α
  | .bulkString (some b) => (fromUtf8 b).bind read
  | .simpleString s => read s
  | _ => none

def asStr : RespValue → Option String := ofText some

def asI64 : RespValue → Option ℤ
  | .integer i => some i
  | other => other.ofText fun s => (parseI64 s).toOption

section

variable (texts : Texts) (i64AsF64 : ℤ → BitVec 64)

def asF64 : RespValue → Option (BitVec 64)
  | .double f => some f
  | .integer i => some (i64AsF64 i)
  | other => other.ofText fun s => (texts.std.parseF64 s).toOption

def boolText (s : String) : Option Bool :=
  match texts.unicode.toLowercase s with
  | "true" | "t" | "1" => some true
  | "false" | "f" | "0" => some false
  | _ => none

def asBool : RespValue → Option Bool
  | .boolean b => some b
  | .integer i => some (decide (i ≠ 0))
  | other => other.ofText (boolText texts)

def textCanBe (cell : RespValue) (s : String) : DataType → Bool
  | .int64 => (parseI64 s).toOption.isSome
  | .float64 => (texts.std.parseF64 s).toOption.isSome
  | .boolean => (cell.asBool texts).isSome
  | .utf8 => true

def canBe (type : DataType) (cell : RespValue) : Bool :=
  match cell with
  | .integer _ => type ≠ .boolean
  | .double _ => type = .float64 ∨ type = .utf8
  | .boolean _ => type = .boolean ∨ type = .utf8
  | .simpleString s => cell.textCanBe texts s type
  | .bulkString (some b) =>
    match fromUtf8 b with
    | some s => cell.textCanBe texts s type
    | none => type = .utf8
  | _ => type = .utf8

def inference : Inference RespValue where
  canBe := canBe texts
  read
    | .int64 => asI64
    | .float64 => asF64 texts i64AsF64
    | .boolean => asBool texts
    | .utf8 => fun cell => some (cell.toStringLossy texts)
  canBe_utf8 cell := by
    cases cell with
    | bulkString b =>
      cases b with
      | none => rfl
      | some b =>
        simp only [canBe]
        cases fromUtf8 b <;> rfl
    | _ => rfl
  isSome_read {type cell} h := by
    cases cell with
    | simpleString => cases type <;> first | rfl | exact h
    | bulkString b =>
      cases b with
      | none => cases type <;> first | rfl | cases h
      | some b =>
        cases hs : fromUtf8 b with
        | none =>
          simp only [canBe, hs] at h
          cases type <;> first | rfl | cases h
        | some s =>
          simp only [canBe, hs] at h
          cases type with
          | int64 | float64 =>
            simp only [asI64, asF64, ofText, hs]
            exact h
          | boolean => exact h
          | utf8 => rfl
    | _ => cases type <;> first | rfl | cases h

end

end RespValue

open RespValue

section

variable (texts : Texts) (i64AsF64 : ℤ → BitVec 64)

namespace FalkorQueryResult

variable (result : FalkorQueryResult)

def cells (colIdx : ℕ) : List (Option RespValue) :=
  result.rows.map fun row => row[colIdx]?.filter (!·.isNull)

/-- The fields with their columns, as `RecordBatch::try_new` is given them. -/
def toArrowRecordBatch : List (String × Column) :=
  if result.columns = [] ∨ result.rows = [] then result.columns.map fun name => (name, ⟨.utf8, []⟩)
  else result.columns.zipIdx.map fun field =>
    (field.1, (RespValue.inference texts i64AsF64).column (result.cells field.2))

end FalkorQueryResult

open FalkorQueryResult

lemma toStringLossy_of_asStr (hlossy : ∀ b s, fromUtf8 b = some s → texts.lossy b = s)
    {cell : RespValue} {s : String} (h : cell.asStr = some s) : cell.toStringLossy texts = s := by
  cases cell with
  | simpleString =>
    cases h
    rfl
  | bulkString b =>
    cases b with
    | none => cases h
    | some b => exact hlossy b s (by simpa [asStr, ofText] using h)
  | _ => cases h

theorem toArrowRecordBatch_strings (hlossy : ∀ b s, RespValue.fromUtf8 b = some s → texts.lossy b = s)
    (result : FalkorQueryResult) (k : ℕ) (name : String) (hname : result.columns[k]? = some name) :
    ∃ column, (result.toArrowRecordBatch texts i64AsF64)[k]? = some (name, column) ∧
      column.values.map Option.isNone = (result.cells k).map Option.isNone ∧
      ((∀ cell, some cell ∈ result.cells k → cell.asStr.isSome) →
        (column = ⟨.utf8, (result.cells k).map (·.bind RespValue.asStr)⟩ ↔
          ∀ type, (RespValue.inference texts i64AsF64).Fits (result.cells k) type → type = .utf8)) := by
  have hcolumn : (result.toArrowRecordBatch texts i64AsF64)[k]? =
      some (name, (inference texts i64AsF64).column (result.cells k)) := by
    rw [toArrowRecordBatch]
    split_ifs with h
    · obtain h | h := h
      · rw [h] at hname
        cases hname
      · rw [List.getElem?_map, hname, cells, h]
        rfl
    · rw [List.getElem?_map, List.getElem?_zipIdx, hname]
      simp
  refine ⟨_, hcolumn, Inference.nulls_column, fun hstr => ?_⟩
  rw [← Inference.dataType_eq_utf8_iff]
  refine ⟨congrArg Column.type, fun htype => ?_⟩
  rw [Inference.column, htype]
  congr 1
  refine List.map_congr_left fun cell hcell => ?_
  cases cell with
  | none => rfl
  | some cell =>
    obtain ⟨s, hs⟩ := Option.isSome_iff_exists.mp (hstr cell hcell)
    exact (congrArg some (toStringLossy_of_asStr texts hlossy hs)).trans hs.symm

end

def utf8Texts : Texts where
  std := ⟨fun _ => "", fun _ => .error ""⟩
  unicode := .ascii
  lossy b := (RespValue.fromUtf8 b).getD ""
  f64Text _ := ""
  debug _ := ""
  roundF64 _ := 0

def codes (cells : List RespValue) : FalkorQueryResult := ⟨["code"], cells.map fun cell => [cell], {}⟩

theorem toArrowRecordBatch_strings_code :
    ∃ column,
      ((codes [.simpleString "A-7", .null]).toArrowRecordBatch utf8Texts fun _ => 0)[0]? = some ("code", column) ∧
        column = ⟨.utf8, [some "A-7", none]⟩ := by
  obtain ⟨column, hcolumn, -, h⟩ := toArrowRecordBatch_strings utf8Texts (fun _ => 0)
    (fun b s hs => by simp [utf8Texts, hs]) (codes [.simpleString "A-7", .null]) 0 "code" rfl
  have hcells : (codes [.simpleString "A-7", .null]).cells 0 = [some (.simpleString "A-7"), none] := rfl
  rw [hcells] at h
  refine ⟨column, hcolumn, (h (by simp [asStr, ofText])).mpr fun type hfits => ?_⟩
  have hcan := hfits.2 _ List.mem_cons_self
  cases type with
  | utf8 => rfl
  | int64 | float64 | boolean => exact absurd hcan (by decide +kernel)

theorem toArrowRecordBatch_rewrites :
    (codes [.simpleString "00123"]).toArrowRecordBatch utf8Texts (fun _ => 0) =
      [("code", ⟨.int64, [some (123 : ℤ)]⟩)] :=
  rfl

end Voyager.Redis
