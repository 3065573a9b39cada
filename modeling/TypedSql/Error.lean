import TypedSql.Text.Inspected

namespace TypedSql

/-- A column could not be resolved or read. -/
inductive QueryError where
  /-- A qualified wildcard names no table of the query. -/
  | noSuchTable (name : String)
  /-- No column has the name, alone or as its last part. -/
  | noSuchColumn (name : String) (columns : List String)
  /-- A bare name is the last part of several qualified names. -/
  | ambiguousColumn (name : String) (similar : List String)
  /-- A required column holds no value of its type. -/
  | unexpectedNull (name : String)
  deriving DecidableEq

def QueryError.message : QueryError → String
  | noSuchTable name => "no such table: " ++ name
  | noSuchColumn name columns =>
    "no such column `" ++ name ++ "` in columns " ++ Text.bracketed (columns.map Text.inspected)
  | ambiguousColumn name similar =>
    "ambiguous column `" ++ name ++ "` (please disambiguate: " ++
      Text.bracketed (similar.map Text.inspected) ++ ")"
  | unexpectedNull name => "unexpected null value for column `" ++ name ++ "`"

/-- What went wrong in the database behind a connection. -/
inductive Failure where
  /-- A failure known by its text alone. -/
  | other (text : String)
  /-- The database refused a statement, or could not be opened. -/
  | database (reason : String)
  /-- The machinery that drives the database could not be started. -/
  | runtime (reason : String)
  /-- An earlier statement broke off while it held the connection. -/
  | poisoned
  deriving DecidableEq

def Failure.message : Failure → String
  | other text => text
  | database reason => "Database error: " ++ reason
  | runtime reason => "Runtime error: " ++ reason
  | poisoned => "Connection lock poisoned"

/-- Why running a statement failed. -/
inductive Error where
  | query (cause : QueryError)
  | connection (cause : Failure)
  deriving DecidableEq

namespace Error

def message : Error → String
  | query cause => cause.message
  | connection cause => "connection error: " ++ cause.message

/-- The column failure behind an error, if it is one. -/
def query? : Error → Option QueryError
  | query cause => some cause
  | connection _ => none

end Error

end TypedSql
