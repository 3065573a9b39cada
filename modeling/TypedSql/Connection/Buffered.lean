import TypedSql.Connection.Basic
import TypedSql.Value.Cell

/-! The connection to a database engine that runs a statement at one go. Preparing a
statement only describes it. The first step runs it, reads all its rows and keeps them
for later steps, which hand them out one by one, whatever happens to the database in
between; a first step that fails leaves the statement to be run again, even if only
the reading failed. -/
namespace TypedSql

/-- A database engine with states `σ`. -/
structure Engine (σ : Type) where
  /-- The names of the columns that a statement gives. -/
  describe : σ → Fragment → Except Failure (List String)
  /-- The rows of a statement, unread, and what it did, and the state behind it, after a failure
  too. -/
  run : σ → Fragment → Except Failure (List (List Cell) × Outcome) × σ

/-- A described statement, and its rows that are left once it has run. -/
structure Prepared where
  statement : Fragment
  columns : List String
  rows : Option (List (List Value)) := none
  deriving DecidableEq

/-- Hands out the next of the rows that are left. -/
def Prepared.handOut (p : Prepared) : List (List Value) → Option (List Value) × Prepared
  | [] => (none, { p with rows := some [] })
  | row :: rest => (some row, { p with rows := some rest })

namespace Engine

def prepare (e : Engine σ) (s : σ) (statement : Fragment) : Except Error Prepared :=
  match e.describe s statement with
  | .ok columns => .ok { statement, columns }
  | .error failure => .error (.connection failure)

/-- Runs a statement for its rows. What it did to the database stays done if they cannot be
read. -/
def fetch (e : Engine σ) (s : σ) (statement : Fragment) :
    Except Failure (List (List Value)) × σ :=
  let (result, s) := e.run s statement
  (result.bind fun (rows, _) => Cell.rowsOf rows, s)

/-- The next row; runs the statement if it has not run yet. -/
def step (e : Engine σ) (s : σ) (p : Prepared) :
    (Except Error (Option (List Value)) × Prepared) × σ :=
  match p.rows with
  | some rows =>
    let (row, p) := p.handOut rows
    ((.ok row, p), s)
  | none =>
    match e.fetch s p.statement with
    | (.error failure, s) => ((.error (.connection failure), p), s)
    | (.ok rows, s) =>
      let (row, p) := p.handOut rows
      ((.ok row, p), s)

/-- Runs a statement for its effect. Its rows stay unread. -/
def execute (e : Engine σ) (s : σ) (statement : Fragment) : Except Error Outcome × σ :=
  match e.run s statement with
  | (.error failure, s) => (.error (.connection failure), s)
  | (.ok (_, outcome), s) => (.ok outcome, s)

def connection (e : Engine σ) : Connection σ Prepared where
  prepare statement := ExceptT.mk fun s => (e.prepare s statement, s)
  columnNames p := ExceptT.mk fun s => (.ok p.columns, s)
  step p := fun s => e.step s p
  execute statement := ExceptT.mk fun s => e.execute s statement

end Engine

end TypedSql
