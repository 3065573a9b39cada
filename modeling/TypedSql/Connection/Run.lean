import TypedSql.Connection.Resolve
import TypedSql.Row.Basic
import TypedSql.Statement

namespace TypedSql

/-- A prepared query whose rows are still to come. -/
structure Rows (ρ : Type) where
  statement : ρ
  columns : ColumnMap

/-- The next row, `none` past the last one. -/
def Rows.next (c : Connection σ ρ) (rows : Rows ρ) :
    StateM σ (Option (Except Error Row) × Rows ρ) := do
  let (row, statement) ← c.step rows.statement
  let rows := { rows with statement }
  match row with
  | .ok none => return (none, rows)
  | .ok (some values) => return (some (.ok ⟨rows.columns, values⟩), rows)
  | .error e => return (some (.error e), rows)

/-- What the next calls give, up to the end of the rows or to `limit` of them. -/
def Rows.upTo (c : Connection σ ρ) : (limit : Nat) → Rows ρ → StateM σ (List (Except Error Row))
  | 0, _ => return []
  | limit + 1, rows => do
    match ← rows.next c with
    | (none, _) => return []
    | (some item, rows) => return item :: (← Rows.upTo c limit rows)

/-- What exactly `count` calls give, past the end of the rows too. -/
def Rows.nextTimes (c : Connection σ ρ) :
    (count : Nat) → Rows ρ → StateM σ (List (Option (Except Error Row)))
  | 0, _ => return []
  | count + 1, rows => do
    let (item, rows) ← rows.next c
    return item :: (← Rows.nextTimes c count rows)

namespace Query

/-- Prepares the query, then resolves its columns. -/
def rows (c : Connection σ ρ) (q : Query) : Session σ (Rows ρ) := do
  let statement ← c.prepare q.fragment
  let columns ← q.resolveColumns c
  return { statement, columns }

/-- The first row of the query. -/
def pluck (c : Connection σ ρ) (q : Query) : Session σ (Option Row) := do
  let rows ← q.first.rows c
  match ← rows.next c with
  | (none, _) => return none
  | (some (.ok row), _) => return some row
  | (some (.error e), _) => throw e

/-- The first value that a statement gives. -/
def firstValue (c : Connection σ ρ) (statement : Fragment) : Session σ Value := do
  let prepared ← c.prepare statement
  let (value, _) ← c.scalar prepared
  value

/-- Whether the query has a row. An answer that is no truth value counts as no. -/
def hasRows (c : Connection σ ρ) (q : Query) : Session σ Bool := do
  let value ← firstValue c (Statement.exists q).fragment
  return (BaseType.bool.decode value).getD false

end Query

/-- The value of a one-column query, under the name of its column. -/
def ScalarQuery.value (c : Connection σ ρ) (s : ScalarQuery t) : Session σ t.Host := do
  let value ← Query.firstValue c s.query.fragment
  match t.ofOption s.column.template (t.base.decode value) with
  | .ok host => return host
  | .error e => throw (.query e)

/-- The result of a command: the identifier of the new row, or a number of rows. -/
inductive CommandResult where
  | rowid (n : Int)
  | changes (n : Nat)
  deriving DecidableEq

namespace Command

/-- Only the insertion of a single row has a row identifier to tell. -/
def resultOf : Command → Outcome → CommandResult
  | insert .., outcome => .rowid outcome.lastRowid
  | _, outcome => .changes outcome.changes

def run (c : Connection σ ρ) (command : Command) : Session σ CommandResult := do
  return command.resultOf (← c.execute command.fragment)

end Command

end TypedSql
