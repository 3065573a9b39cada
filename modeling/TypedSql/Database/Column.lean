import TypedSql.Value.Order

namespace TypedSql.Database

/-- Names are compared without regard to the case of ASCII letters. -/
def sameName (a b : String) : Bool :=
  a.toList.map Char.toLower = b.toList.map Char.toLower

/-- The kind of values that a column prefers. -/
inductive Affinity where
  | integer
  | real
  | text
  | numeric
  | none
  deriving DecidableEq, Repr

/-- A declared type: its words joined by spaces, and the numbers in parentheses behind them. -/
structure TypeName where
  words : String := ""
  sizes : List Nat := []
  deriving DecidableEq, Repr

namespace TypeName

def mentions (t : TypeName) (part : String) : Bool :=
  (t.words.toUpper.splitOn part).length ≠ 1

/-- The first kind that the words mention counts. -/
def affinity (t : TypeName) : Affinity :=
  if t.words.isEmpty then .none
  else if t.mentions "INT" then .integer
  else if t.mentions "CHAR" || t.mentions "CLOB" || t.mentions "TEXT" then .text
  else if t.mentions "BLOB" then .none
  else if t.mentions "REAL" || t.mentions "FLOA" || t.mentions "DOUB" then .real
  else .numeric

/-- The estimated width of a value, in units of four bytes. -/
def width (t : TypeName) : Nat :=
  if t.words.isEmpty then 1
  else
    match t.affinity, t.sizes with
    | .text, [] => if t.mentions "CHAR" then 1 else 5
    | .none, [] => 5
    | .text, size :: _ | .none, size :: _ => min (size / 4 + 1) 255
    | _, _ => 1

end TypeName

/-- A column as it was declared. -/
structure ColumnDef where
  name : String
  type : TypeName := {}
  primaryKey : Bool := false
  notNull : Bool := false
  unique : Bool := false
  deriving DecidableEq, Repr

/-- A number that is none has no place in storage. -/
def storable : Value → Value
  | .real x => if x.isNaN then .null else .real x
  | value => value

/-- The integer that a number stands for. The two integers at the ends of the range
are not reached from a number with a fraction part. -/
def wholeNumber? : Value → Option Int64
  | .int n => some n
  | .real x =>
    let n := x.toInt64
    if n.toFloat == x && Int64.minValue < n && n < Int64.maxValue then some n else none
  | _ => none

namespace ColumnDef

/-- A primary key of integers is the row identifier itself. -/
def isKey (c : ColumnDef) : Bool :=
  c.primaryKey && c.type.words.toUpper = "INTEGER" && c.type.sizes.isEmpty

/-- Whether no two rows may hold the same value. -/
def isDistinct (c : ColumnDef) : Bool :=
  c.unique || c.primaryKey

/-- A number in the form that the column prefers. A real column has no negative zero. -/
def fit (c : ColumnDef) (value : Value) : Value :=
  match c.type.affinity, value with
  | .integer, .real _ | .numeric, .real _ =>
    match wholeNumber? value with
    | some n => .int n
    | none => value
  | .real, .int n => .real n.toFloat
  | .real, .real x => .real (if x == 0.0 then 0.0 else x)
  | _, _ => value

end ColumnDef

end TypedSql.Database
