import TypedSql.Connection.Buffered
import TypedSql.Database.Run

namespace TypedSql.Database

/-- A refusal as the failure of a statement. -/
def Refusal.failure (refusal : Refusal) : Failure :=
  .database refusal.message

def engine : Engine Database where
  describe db statement := (db.describe statement.template).mapError Refusal.failure
  run db statement :=
    let (result, db) := db.run statement
    (result.mapError Refusal.failure, db)

def connection : Connection Database Prepared :=
  engine.connection

/-- A bound on the rows of any result. -/
def rowBound (db : Database) : Nat :=
  db.tables.foldl (fun bound t => bound + t.rows.length) 1

end TypedSql.Database
