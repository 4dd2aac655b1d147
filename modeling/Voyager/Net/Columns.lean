import Mathlib.Tactic

/-! Columns whose type is inferred from their cells. -/

namespace Voyager.Net

inductive DataType
  | int64 | float64 | boolean | utf8
deriving DecidableEq

/-- The place of a type among those that are tried. -/
def DataType.rank : DataType → ℕ
  | int64 => 0
  | float64 => 1
  | boolean => 2
  | utf8 => 3

def DataType.Value : DataType → Type
  | int64 => ℤ
  | float64 => BitVec 64
  | boolean => Bool
  | utf8 => String

variable (f64Text : BitVec 64 → String)

def DataType.text : (type : DataType) → type.Value → String
  | int64 => fun i : ℤ => toString i
  | float64 => f64Text
  | boolean => fun b : Bool => toString b
  | utf8 => id

structure Column where
  type : DataType
  values : List (Option type.Value)

def Column.texts (column : Column) : List (Option String) :=
  column.values.map (Option.map (column.type.text f64Text))

/-- Which types a cell leaves possible, and what is read from it in a column of each. -/
structure Inference (Cell : Type) where
  canBe : DataType → Cell → Bool
  read : (type : DataType) → Cell → Option type.Value
  canBe_utf8 : ∀ cell, canBe .utf8 cell = true
  isSome_read : ∀ {type cell}, canBe type cell = true → (read type cell).isSome = true

namespace Inference

variable {Cell : Type} (inference : Inference Cell) (cells : List (Option Cell))

def dataType : DataType :=
  let all type := cells.all (Option.all (inference.canBe type))
  if cells.all Option.isNone then .utf8
  else if all .int64 then .int64
  else if all .float64 then .float64
  else if all .boolean then .boolean
  else .utf8

def column : Column where
  type := inference.dataType cells
  values := cells.map (·.bind (inference.read (inference.dataType cells)))

def Fits (type : DataType) : Prop :=
  (∃ cell, some cell ∈ cells) ∧ ∀ cell, some cell ∈ cells → inference.canBe type cell = true

variable {inference cells}

lemma fits_dataType {cell : Cell} (h : some cell ∈ cells) : inference.Fits cells (inference.dataType cells) := by
  refine ⟨⟨cell, h⟩, fun cell h => ?_⟩
  have hall : ∀ {type}, cells.all (Option.all (inference.canBe type)) = true → inference.canBe type cell = true :=
    fun hcells => List.all_eq_true.mp hcells _ h
  simp only [dataType]
  split_ifs with _ hint hfloat hbool
  · exact inference.canBe_utf8 cell
  · exact hall hint
  · exact hall hfloat
  · exact hall hbool
  · exact inference.canBe_utf8 cell

lemma nulls_column : (inference.column cells).values.map Option.isNone = cells.map Option.isNone := by
  rw [column, List.map_map]
  refine List.map_congr_left fun cell hcell => ?_
  cases cell with
  | none => rfl
  | some cell => simpa using inference.isSome_read ((fits_dataType hcell).2 cell hcell)

lemma rank_dataType_le {type : DataType} (h : inference.Fits cells type) : (inference.dataType cells).rank ≤ type.rank := by
  obtain ⟨⟨cell, hcell⟩, hcan⟩ := h
  have hall : cells.all (Option.all (inference.canBe type)) = true := by
    rw [List.all_eq_true]
    rintro (_ | cell) hcell
    · rfl
    · exact hcan cell hcell
  have hsome : ¬ cells.all Option.isNone = true := fun hnone => absurd (List.all_eq_true.mp hnone _ hcell) (by simp)
  simp only [dataType, if_neg hsome]
  cases type with
  | int64 => simp [hall]
  | float64 | boolean | utf8 =>
    split_ifs
    all_goals decide

lemma dataType_eq_utf8_iff :
    inference.dataType cells = .utf8 ↔ ∀ type, inference.Fits cells type → type = .utf8 := by
  constructor
  · intro h type hfits
    have hrank := rank_dataType_le hfits
    rw [h] at hrank
    cases type with
    | utf8 => rfl
    | int64 | float64 | boolean => exact absurd hrank (by decide)
  · intro h
    by_cases hcells : cells.all Option.isNone
    · simp [dataType, hcells]
    · simp only [List.all_eq_true, not_forall] at hcells
      obtain ⟨_ | cell, hcell, hsome⟩ := hcells
      · exact absurd rfl hsome
      · exact h _ (fits_dataType hcell)

end Inference

end Voyager.Net
