import TypedSql.CommandLine.Report
import TypedSql.Database.Journal

namespace TypedSql.CommandLine

/-- The text of a file, if there is such a file. -/
def readFile? (path : String) : IO (Option String) := do
  try return some (← IO.FS.readFile path)
  catch _ => return none

/-- The path of the database file that a command line is about. -/
def databasePath? (args : List String) (environment : Option String) : Option String :=
  match Request.ofArguments args with
  | .inspect invocation =>
    let settings := invocation.settings environment
    match Database.Location.ofUrl? settings.createIfMissing settings.url with
    | some (.file path _) => some path
    | _ => none
  | _ => none

end TypedSql.CommandLine

open TypedSql in
def main (args : List String) : IO UInt32 := do
  let environment ← IO.getEnv "DATABASE_URL"
  let content ← (CommandLine.databasePath? args environment).mapM CommandLine.readFile?
  let changes := content.join.bind Database.changesOfText?
  let report := CommandLine.report args environment fun _ => changes
  IO.print report.output
  return UInt32.ofNat report.exitCode
