import TypedSql.CommandLine.Options
import TypedSql.Text.Decimal

namespace TypedSql.CommandLine

/-- What is to be shown of a table. -/
inductive Inspection where
  | columns (table : String)
  | count (table : String)
  | head (table : String) (limit : Nat)
  deriving DecidableEq, Repr

def Inspection.table : Inspection → String
  | columns table | count table | head table _ => table

structure Invocation where
  database : Option String
  /-- Show the statement instead of running it. -/
  sqlOnly : Bool
  verbose : Bool
  inspection : Inspection
  deriving DecidableEq, Repr

inductive Request where
  | inspect (invocation : Invocation)
  | version
  | usage
  | invalid
  deriving DecidableEq, Repr

/-- The options before the subcommand. -/
inductive GeneralOption where
  | database | sql | verbose | help | version
  deriving DecidableEq, Repr

def generalOptions : List (OptionSpec GeneralOption) :=
  [{ key := .database, long := "database", short := some 'd', takesValue := true },
    { key := .sql, long := "sql" },
    { key := .verbose, long := "verbose", short := some 'v' },
    { key := .help, long := "help", short := some 'h' },
    { key := .version, long := "version", short := some 'V' }]

/-- The options behind a subcommand. -/
inductive TableOption where
  | limit | help
  deriving DecidableEq, Repr

def helpOption : OptionSpec TableOption :=
  { key := .help, long := "help", short := some 'h' }

def limitOption : OptionSpec TableOption :=
  { key := .limit, long := "limit", short := some 'l', takesValue := true }

/-- A number of rows: digits, perhaps behind a plus sign, that fit 64 bits. -/
def rowCount? (text : String) : Option Nat :=
  let digits := match text.toList with
    | '+' :: rest => rest
    | cs => cs
  (Text.readNat? digits).filter (· < UInt64.size)

/-- What the general options have said so far, each of them once. -/
structure General where
  database : Option String := none
  sql : Bool := false
  verbose : Bool := false

/-- Takes in the general options. The first that asks for help or the version, or comes
a second time, settles the matter. -/
def readGeneral (g : General) : List (Event GeneralOption) → Except Request General
  | [] => .ok g
  | .value .database url :: rest =>
    if g.database.isSome then .error .invalid else readGeneral { g with database := some url } rest
  | .flag .sql :: rest => if g.sql then .error .invalid else readGeneral { g with sql := true } rest
  | .flag .verbose :: rest =>
    if g.verbose then .error .invalid else readGeneral { g with verbose := true } rest
  | .flag .help :: _ => .error .usage
  | .flag .version :: _ => .error .version
  | _ => .error .invalid

/-- What a subcommand has been told so far. -/
structure Target where
  table : Option String := none
  limit : Option Nat := none

/-- Takes in the arguments of a subcommand: one table, and a limit at most once. -/
def readTarget (t : Target) : List (Event TableOption) → Except Request Target
  | [] => .ok t
  | .word name :: rest =>
    if t.table.isSome then .error .invalid else readTarget { t with table := some name } rest
  | .value .limit text :: rest =>
    match t.limit, rowCount? text with
    | none, some n => readTarget { t with limit := some n } rest
    | _, _ => .error .invalid
  | .flag .help :: _ => .error .usage
  | _ => .error .invalid

/-- The subcommands: the options of each, and what it inspects. -/
def subcommand? (name : String) :
    Option (List (OptionSpec TableOption) × (String → Option Nat → Inspection)) :=
  match name with
  | "columns" => some ([helpOption], fun table _ => .columns table)
  | "count" => some ([helpOption], fun table _ => .count table)
  | "head" => some ([limitOption, helpOption], fun table limit => .head table (limit.getD 10))
  | _ => none

/-- Asking for help on a subcommand, or on the program. -/
def helpRequest : List String → Request
  | [] => .usage
  | [name] => if name = "help" || (subcommand? name).isSome then .usage else .invalid
  | _ => .invalid

/-- What a subcommand and the arguments behind it ask for. -/
def readSubcommand (g : General) (name : String) (args : List String) : Except Request Request := do
  if name = "help" then return helpRequest args
  let some (specs, inspection) := subcommand? name | throw .invalid
  let (events, ending) := scan specs true args
  let target ← readTarget {} events
  match ending, target.table with
  | .finished, some table =>
    return .inspect {
      database := g.database
      sqlOnly := g.sql
      verbose := g.verbose
      inspection := inspection table target.limit }
  | _, _ => throw .invalid

/-- What a command line asks for. -/
def Request.ofArguments (args : List String) : Request :=
  let (events, ending) := scan generalOptions false args
  let result : Except Request Request := do
    let general ← readGeneral {} events
    match ending with
    | .word name rest => readSubcommand general name rest
    | _ => throw .invalid
  match result with
  | .ok request | .error request => request

end TypedSql.CommandLine
