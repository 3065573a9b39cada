import TypedSql.Error
import TypedSql.Value.Basic

/-! The values of a result as the engine behind a connection hands them out. Text is bytes, and
reading it fails if the bytes are not those of a text. -/
namespace TypedSql

/-- A value of a result, by storage class. -/
inductive Cell where
  | null
  | int (n : Int64)
  | real (x : Float)
  | text (bytes : List UInt8)
  | blob (bytes : List UInt8)
  deriving DecidableEq

/-- The cell that a value is handed out in. -/
def Value.cell : Value → Cell
  | null => .null
  | int n => .int n
  | real x => .real x
  | text s => .text s.toUTF8.data.toList
  | blob bytes => .blob bytes

namespace Cell

def value : Cell → Except Failure Value
  | null => .ok .null
  | int n => .ok (.int n)
  | real x => .ok (.real x)
  | blob bytes => .ok (.blob bytes)
  | text bytes =>
    match String.fromUTF8? ⟨bytes.toArray⟩ with
    | some s => .ok (.text s)
    | none => .error (.database "invalid utf-8 sequence")

/-- The values of all rows, or the failure of the first cell that holds none. -/
def rowsOf (rows : List (List Cell)) : Except Failure (List (List Value)) :=
  rows.mapM fun row => row.mapM value

theorem value_cell (v : Value) : v.cell.value = .ok v := by
  cases v with
  | text s =>
    have valid : s.toUTF8.IsValidUTF8 := s.isValidUTF8
    have read : String.fromUTF8? s.toUTF8 = some s := dif_pos valid
    rw [Value.cell, value, Array.toArray_toList, read]
  | null | int | real | blob => rfl

theorem mapM_map_of_inverse {read : β → Except ε α} {write : α → β}
    (inverse : ∀ a, read (write a) = .ok a) (items : List α) :
    (items.map write).mapM read = .ok items := by
  induction items with
  | nil => rfl
  | cons a rest ih =>
    rw [List.map_cons, List.mapM_cons, inverse, ih]
    rfl

theorem rowsOf_cells (rows : List (List Value)) :
    rowsOf (rows.map fun row => row.map Value.cell) = .ok rows :=
  mapM_map_of_inverse (mapM_map_of_inverse value_cell) rows

end Cell

end TypedSql
