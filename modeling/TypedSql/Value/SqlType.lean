import TypedSql.Calendar.Timestamp
import TypedSql.Error
import TypedSql.Value.Basic

/-! The types of SQL expressions. A base type has values of its own in the program,
a storage form for each, and a partial reading back; a type is a base type that is
required or nullable. -/
namespace TypedSql

/-- The declared types that a cast can name. -/
inductive DeclaredType where
  | integer
  | real
  | text
  | blob
  deriving DecidableEq, Repr

def DeclaredType.keyword : DeclaredType → String
  | integer => "INTEGER"
  | real => "REAL"
  | text => "TEXT"
  | blob => "BLOB"

/-- The types of single values. -/
inductive BaseType where
  | int64
  | int32
  | real
  | bool
  | text
  | bytes
  | dateTime
  deriving DecidableEq, Repr

namespace BaseType

/-- The values of a base type in the program. -/
abbrev Host : BaseType → Type
  | int64 => Int64
  | int32 => Int32
  | real => Float
  | bool => Bool
  | text => String
  | bytes => List UInt8
  | dateTime => Calendar.DateTime

def declared : BaseType → DeclaredType
  | int64 | int32 | bool => .integer
  | real => .real
  | text | dateTime => .text
  | bytes => .blob

/-- Truth values are stored as 0 and 1, points in time as their text. -/
def encode : (b : BaseType) → b.Host → Value
  | int64, n => .int n
  | int32, n => .int n.toInt64
  | real, x => .real x
  | bool, truth => .int (if truth then 1 else 0)
  | text, s => .text s
  | bytes, content => .blob content
  | dateTime, d => .text d.text

/-- The value that a stored value stands for, `none` for another storage class or a
value out of range. -/
def decode : (b : BaseType) → Value → Option b.Host
  | int64, .int n => some n
  | int32, .int n =>
    if Int32.minValue.toInt ≤ n.toInt ∧ n.toInt ≤ Int32.maxValue.toInt then some n.toInt32 else none
  | real, .real x => some x
  | bool, .int n => some (n != 0)
  | text, .text s => some s
  | bytes, .blob content => some content
  | dateTime, .text s => Calendar.DateTime.ofText? s
  | _, _ => none

/-- Base types with arithmetic. -/
def isNumeric : BaseType → Bool
  | int64 | int32 | real => true
  | _ => false

/-- Base types with remainders and bitwise operations. -/
def isInteger : BaseType → Bool
  | int64 | int32 => true
  | _ => false

/-- Base types with a complement, logical or bitwise. -/
def isInvertible : BaseType → Bool
  | int64 | int32 | bool => true
  | _ => false

end BaseType

/-- The type of an expression. -/
inductive SqlType where
  | required (base : BaseType)
  | nullable (base : BaseType)
  deriving DecidableEq, Repr

namespace SqlType

def base : SqlType → BaseType
  | required b | nullable b => b

def isNullable : SqlType → Bool
  | required _ => false
  | nullable _ => true

/-- The same type with NULL. -/
def optional (t : SqlType) : SqlType :=
  nullable t.base

/-- The type of a test on an operand. -/
def predicate : SqlType → SqlType
  | required _ => required .bool
  | nullable _ => nullable .bool

/-- What reading an expression of the type gives. -/
abbrev Host : SqlType → Type
  | required b => b.Host
  | nullable b => Option b.Host

/-- A required type refuses a missing value; `name` is the column that was read. -/
def ofOption (name : String) : (t : SqlType) → Option t.base.Host → Except QueryError t.Host
  | required _, some value => .ok value
  | required _, none => .error (.unexpectedNull name)
  | nullable _, value => .ok value

end SqlType

end TypedSql
