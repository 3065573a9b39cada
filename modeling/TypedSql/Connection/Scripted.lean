import TypedSql.Connection.Basic

/-! A connection that answers from a prepared script, to try out what runs over a
connection without a database. It has no state: every preparation of a statement
starts its rows anew. -/
namespace TypedSql

/-- What a prepared statement will answer. An absent row says that no row is left;
a text in place of an answer is a failure. -/
structure ScriptedStatement where
  columns : Except String (List String)
  rows : List (Except String (Option (List Value)))

/-- The answer to every call, by the text of the statement. -/
structure Script where
  statements : List (String × Except String ScriptedStatement)
  outcome : Except String Outcome := .ok {}

namespace Script

/-- A failure of the script, as a failure of the connection. -/
def answer (result : Except String α) : Except Error α :=
  result.mapError fun text => .connection (.other text)

/-- The last entry for a text is the one that counts. -/
def prepare (script : Script) (statement : Fragment) : Except String ScriptedStatement :=
  match script.statements.reverse.lookup statement.template with
  | some found => found
  | none => .error "not scripted"

/-- One element of the rows is used up, be it a row, an end or a failure. -/
def ScriptedStatement.step (s : ScriptedStatement) :
    Except Error (Option (List Value)) × ScriptedStatement :=
  match s.rows with
  | [] => (.ok none, s)
  | row :: rest => (answer row, { s with rows := rest })

def connection (script : Script) : Connection Unit ScriptedStatement where
  prepare statement := ExceptT.mk (pure (answer (script.prepare statement)))
  columnNames statement := ExceptT.mk (pure (answer statement.columns))
  step statement := pure (ScriptedStatement.step statement)
  execute _ := ExceptT.mk (pure (answer script.outcome))

end Script

end TypedSql
