import TypedSql.Expr.Term
import TypedSql.Row.ColumnMap

/-! Rows: values addressed by position, and by column through a column map. A column
is looked up by its whole text first. Failing that, a bare name stands for the one
qualified name that ends in it. -/
namespace TypedSql

/-- One row of a result. -/
structure Row where
  columns : ColumnMap
  values : List Value
  deriving DecidableEq

namespace Row

/-- The position that a column's text stands for. -/
def index? (columns : ColumnMap) (name : String) : Except QueryError Nat :=
  match columns.get? name with
  | some index => .ok index
  | none =>
    match columns.similar name with
    | [] => .error (.noSuchColumn name columns.names)
    | [candidate] =>
      match columns.get? candidate with
      | some index => .ok index
      | none => .error (.noSuchColumn name columns.names)
    | similar => .error (.ambiguousColumn name similar)

/-- The value of a column if it holds one of the column's type. -/
def getOptional (row : Row) (column : Term t) : Except QueryError (Option t.base.Host) := do
  let index ← index? row.columns column.template
  return row.values[index]?.bind t.base.decode

/-- The value of a column; a required column has to hold one. -/
def get (row : Row) (column : Term t) : Except QueryError t.Host := do
  t.ofOption column.template (← row.getOptional column)

/-- Whether a column of just this name holds a value other than NULL. -/
def hasValue (row : Row) (name : String) : Bool :=
  match (row.columns.get? (Text.quote name)).bind fun index => row.values[index]? with
  | some value => !value.isNull
  | none => false

end Row

end TypedSql
