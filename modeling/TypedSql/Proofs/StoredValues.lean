import TypedSql.Proofs.Clauses.Insertion
import TypedSql.Proofs.Timestamps

namespace TypedSql

namespace BaseType

/-- What is left of a value in its stored form. -/
def stored : (b : BaseType) → b.Host → b.Host
  | dateTime, d => d.settled.truncated
  | int64, v | int32, v | real, v | bool, v | text, v | bytes, v => v

theorem decode_encode (b : BaseType) (v : b.Host) : b.decode (b.encode v) = some (b.stored v) := by
  cases b with
  | int64 | real | text | bytes => rfl
  | int32 =>
    have range : Int32.minValue.toInt ≤ v.toInt64.toInt ∧
        v.toInt64.toInt ≤ Int32.maxValue.toInt := by
      rw [Int32.toInt_toInt64]
      exact ⟨Int32.minValue_le_toInt v, Int32.toInt_le v⟩
    rw [encode, decode, if_pos range, Int32.toInt32_toInt64]
    rfl
  | bool => cases v <;> rfl
  | dateTime => exact Calendar.DateTime.ofText?_text v

theorem decode_null (b : BaseType) : b.decode .null = none := by
  cases b <;> rfl

end BaseType

namespace SqlType

/-- The stored form of what a type holds. -/
def encode : (t : SqlType) → t.Host → Value
  | required b, v => b.encode v
  | nullable _, none => .null
  | nullable b, some v => b.encode v

def stored : (t : SqlType) → t.Host → t.Host
  | required b, v => b.stored v
  | nullable b, v => v.map b.stored

theorem ofOption_decode_encode (t : SqlType) (name : String) (v : t.Host) :
    t.ofOption name (t.base.decode (t.encode v)) = .ok (t.stored v) := by
  cases t with
  | required b =>
    have read : (required b).base.decode ((required b).encode v) = some (b.stored v) :=
      b.decode_encode v
    rw [read]
    rfl
  | nullable b =>
    cases v with
    | none =>
      have read : (nullable b).base.decode ((nullable b).encode none) = none := b.decode_null
      rw [read]
      rfl
    | some v =>
      have read : (nullable b).base.decode ((nullable b).encode (some v)) = some (b.stored v) :=
        b.decode_encode v
      rw [read]
      rfl

end SqlType

/-- A value of the program that a column can be set to: one of the column's base type, a missing
one for a nullable column, or a small integer for a column of wide ones. -/
inductive Settable : SqlType → Type where
  | value (v : t.base.Host) : Settable t
  | option (v : Option b.Host) : Settable (.nullable b)
  | int32 (n : Int32) : Settable (.required .int64)
  | nullableInt32 (n : Int32) : Settable (.nullable .int64)

namespace Settable

def operand : Settable t → Operand t
  | value v => .value v
  | option v => .ofOption rfl v
  | int32 n | nullableInt32 n => .ofInt32 rfl n

/-- The value as one of the column's type. -/
def host : {t : SqlType} → Settable t → t.Host
  | .required _, value v => v
  | .nullable _, value v => some v
  | _, option v => v
  | _, int32 n => n.toInt64
  | _, nullableInt32 n => some n.toInt64

/-- A value is bound in its stored form, and a missing one is the word NULL. -/
theorem constant?_operand (p : Settable t) : p.operand.expr.constant? = some (t.encode p.host) := by
  cases p with
  | value v => cases t <;> rfl
  | option v => cases v <;> rfl
  | int32 n => rfl
  | nullableInt32 n => rfl

end Settable

/-- A typed column of a new row, and what it is set to. -/
structure Assignment where
  type : SqlType
  column : String
  value : Settable type

namespace Assignment

def setter (a : Assignment) : Setter :=
  (Term.column a.type a.column).set a.value.operand

def encoded (a : Assignment) : Value :=
  a.type.encode a.value.host

end Assignment

end TypedSql
