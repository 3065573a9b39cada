import TypedSql.Error
import TypedSql.Fragment

/-! What a database has to offer: to prepare a statement, to say which columns it
gives, to hand out its rows one at a time, and to carry out a change. A connection
acts on a state of its own, and a failing call may still change that state. -/
namespace TypedSql

/-- A computation on the state of a connection that may fail. -/
abbrev Session (σ : Type) := ExceptT Error (StateM σ)

/-- What a change did: the last row identifier given out on the connection, and the
number of rows changed. -/
structure Outcome where
  lastRowid : Int := 0
  changes : Nat := 0
  deriving DecidableEq

/-- A database with states `σ` and prepared statements `ρ`. A step returns the
statement to go on with, after a failure too. -/
structure Connection (σ ρ : Type) where
  prepare : Fragment → Session σ ρ
  columnNames : ρ → Session σ (List String)
  step : ρ → StateM σ (Except Error (Option (List Value)) × ρ)
  execute : Fragment → Session σ Outcome

/-- The first value of the next row, NULL when there is none. -/
def Connection.scalar (c : Connection σ ρ) (statement : ρ) :
    StateM σ (Except Error Value × ρ) := do
  let (row, statement) ← c.step statement
  return (row.map fun values => (values.bind List.head?).getD .null, statement)

/-- One call to a connection. -/
inductive Call where
  | prepare (statement : Fragment)
  | columnNames
  | step
  | execute (statement : Fragment)
  deriving DecidableEq

namespace Connection

private def logged (call : Call) (action : StateM σ α) : StateM (List Call × σ) α :=
  fun (log, s) =>
    let (result, s) := action s
    (result, log ++ [call], s)

/-- The same connection, keeping a list of the calls made. -/
def recorded (c : Connection σ ρ) : Connection (List Call × σ) ρ where
  prepare statement := logged (.prepare statement) (c.prepare statement)
  columnNames statement := logged .columnNames (c.columnNames statement)
  step statement := logged .step (c.step statement)
  execute statement := logged (.execute statement) (c.execute statement)

end Connection

end TypedSql
