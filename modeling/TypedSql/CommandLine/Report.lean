import TypedSql.CommandLine.Invocation
import TypedSql.Connection.Run
import TypedSql.Database.Connection
import TypedSql.Database.Location

namespace TypedSql.CommandLine

/-- What a run has printed, and how it ended. -/
structure Report where
  output : String
  exitCode : Nat := 0
  deriving DecidableEq, Repr

namespace Report

/-- The exit code of a run that could not do what it was asked. -/
def failed (output : String := "") : Report :=
  { output, exitCode := 1 }

/-- The exit code of a command line that asks for nothing known. -/
def misused : Report :=
  { output := "", exitCode := 2 }

end Report

def programName : String := "oxide-query"

def versionText : String :=
  programName ++ " 0.1.0\n"

def usageText : String :=
  "Typed SQL queries against SQLite.\n\nUsage: " ++ programName ++ " [OPTIONS] <COMMAND>\n\n" ++
    "Commands:\n  columns  Show the columns `SELECT *` resolves to\n" ++
    "  count    Count the rows of a table\n  head     Print the first rows of a table\n\n" ++
    "Options:\n  -d, --database <DATABASE>  Database URL (SQLite path or connection string)\n" ++
    "      --sql                  Print the compiled SQL instead of running it\n" ++
    "  -v, --verbose              Enable verbose output\n  -h, --help                 Print help\n" ++
    "  -V, --version              Print version\n"

/-- The database that is inspected when none is named. -/
def defaultDatabase : String := "sqlite:db.sqlite3"

/-- The control characters of one byte that a terminal could act on, besides tab and the
line ends. -/
def terminalControls : List Nat :=
  [0x07, 0x08, 0x0C, 0x1B, 0x7F]

/-- A character as it stands in the log, where it cannot command a terminal. -/
def loggedChar (c : Char) : List Char :=
  if c.toNat ∈ terminalControls then
    ['\\', 'x', Nat.digitChar (c.toNat / 16), Nat.digitChar (c.toNat % 16)]
  else if 0x80 ≤ c.toNat && c.toNat ≤ 0x9F then
    ['\\', 'u', '{'] ++ Text.hexNumber c.toNat ++ ['}']
  else [c]

/-- A line of the log. -/
def infoLine (text : String) : String :=
  " INFO " ++ String.ofList (text.toList.flatMap loggedChar) ++ "\n"

namespace Inspection

/-- The rows that the inspection is about. -/
def query : Inspection → Query
  | columns table | count table => .ofTable table
  | head table limit => (Query.ofTable table).take limit

/-- The statement that tells what is asked. -/
def statement (i : Inspection) : Fragment :=
  match i with
  | count _ => i.query.count.query.fragment
  | _ => i.query.fragment

end Inspection

/-- A position, filled up to three places, and the name at it. -/
def columnLine (name : String) (index : Nat) : String :=
  let digits := Text.decimal index
  " " ++ String.ofList (List.replicate (3 - digits.length) ' ' ++ digits) ++ "  " ++ name ++ "\n"

def columnsText (table : String) (columns : ColumnMap) : String :=
  "\nColumns of " ++ table ++ ":\n" ++ String.ofList (List.replicate 60 '-') ++ "\n" ++
    String.join (columns.byIndex.map fun (name, index) => columnLine name index) ++ "\n"

def tabLine (cells : List String) : String :=
  "\t".intercalate cells ++ "\n"

/-- The lines of the rows up to the first failure, and whether there was none. -/
def rowLines : List (Except Error Row) → List String × Bool
  | [] => ([], true)
  | .error _ :: _ => ([], false)
  | .ok row :: rest =>
    let (lines, complete) := rowLines rest
    (tabLine (row.values.map Value.literal) :: lines, complete)

/-- Shows the columns that a table resolves to. -/
def reportColumns (db : Database) (table : String) (q : Query) : Report :=
  match q.resolveColumns Database.connection db with
  | (.ok columns, _) => { output := columnsText table columns }
  | (.error _, _) => .failed

/-- Shows the number of rows. -/
def reportCount (db : Database) (table : String) (q : Query) : Report :=
  match q.count.value Database.connection db with
  | (.ok count, _) =>
    let digits := Text.intText count.toInt
    { output := infoLine (table ++ ": " ++ digits ++ " rows") ++ digits ++ "\n" }
  | (.error _, _) => .failed

/-- Shows the names of the columns and then the rows, as literals. -/
def reportRows (db : Database) (table : String) (q : Query) : Report :=
  match q.rows Database.connection db with
  | (.error _, _) => .failed
  | (.ok rows, db) =>
    let header := tabLine (rows.columns.byIndex.map Prod.fst)
    let (items, _) := rows.upTo Database.connection db.rowBound db
    let (lines, complete) := rowLines items
    let printed := header ++ String.join lines
    if complete then
      { output := printed ++ infoLine (Text.natText lines.length ++ " rows from " ++ table) }
    else .failed printed

/-- Runs an inspection on an open database. -/
def Inspection.report (db : Database) (i : Inspection) : Report :=
  match i with
  | columns table => reportColumns db table i.query
  | count table => reportCount db table i.query
  | head table _ => reportRows db table i.query

namespace Invocation

/-- The database that is named on the command line, else in the environment. -/
def url (i : Invocation) (environment : Option String) : String :=
  (i.database.or environment).getD defaultDatabase

/-- Only a database that is already there is inspected. -/
def settings (i : Invocation) (environment : Option String) : Settings :=
  { Settings.ofUrl (i.url environment) with createIfMissing := false }

def report (i : Invocation) (environment : Option String)
    (files : String → Option (List Fragment)) : Report :=
  if i.sqlOnly then { output := i.inspection.statement.inlined ++ "\n" }
  else
    match Database.openWith files (i.settings environment) with
    | .error _ => .failed
    | .ok db => i.inspection.report db

end Invocation

/-- The answer to a command line, given the database that the environment names and the
files there are. -/
def report (args : List String) (environment : Option String)
    (files : String → Option (List Fragment)) : Report :=
  match Request.ofArguments args with
  | .inspect invocation => invocation.report environment files
  | .version => { output := versionText }
  | .usage => { output := usageText }
  | .invalid => .misused

end TypedSql.CommandLine
