import TypedSql.Connection.Basic
import TypedSql.Query.Select
import TypedSql.Row.ColumnMap

/-! Which name each column of a query's result goes by. A selected expression goes by
its own text. A wildcard stands for the columns that the database reports for one
source of the query or for all of them, in order. -/
namespace TypedSql

/-- Splits at the last dot. -/
def splitLastDot : List Char → Option (List Char × List Char)
  | [] => none
  | c :: rest =>
    match splitLastDot rest with
    | some (before, after) => some (c :: before, after)
    | none => if c = '.' then some ([], rest) else none

/-- What the text of a selected column asks for. -/
inductive Selected where
  | expression (template : String)
  | everything
  | everythingOf (reference : String)
  deriving DecidableEq

/-- A wildcard is a star alone or behind the last dot. -/
def Selected.ofTemplate (template : String) : Selected :=
  match splitLastDot template.toList with
  | none => if template = "*" then everything else expression template
  | some (before, after) =>
    if after = ['*'] then everythingOf (String.ofList before) else expression template

namespace Query

/-- The tables that a wildcard can mean: the query's own table, all of it, and the
join targets as they are. -/
def sources (q : Query) : List Query :=
  q.selectAll :: q.joins.map Join.target

/-- The columns of a source, as its own statement reports them. -/
def reportedColumns (c : Connection σ ρ) (source : Query) : Session σ (List String) := do
  let statement ← c.prepare source.probe.fragment
  c.columnNames statement

/-- The names for the columns of a source, qualified by its reference or bare. -/
def sourceNames (c : Connection σ ρ) (qualify : Bool) (source : Query) :
    Session σ (List String) := do
  let columns ← source.reportedColumns c
  let qualifier := if qualify then source.table.reference.template ++ "." else ""
  return columns.map fun column => qualifier ++ Text.quote column

/-- The names for the columns of several sources, one source after the other. -/
def allSourceNames (c : Connection σ ρ) (qualify : Bool) : List Query → Session σ (List String)
  | [] => return []
  | source :: rest => do
    let names ← source.sourceNames c qualify
    return names ++ (← allSourceNames c qualify rest)

/-- The names that one selected column stands for. -/
def selectedNames (c : Connection σ ρ) (q : Query) : Selected → Session σ (List String)
  | .expression template => return [template]
  | .everything => allSourceNames c (!q.joins.isEmpty) q.sources
  | .everythingOf reference =>
    match q.sources.find? fun source => source.table.reference.template = reference with
    | none => throw (.query (.noSuchTable reference))
    | some source => source.sourceNames c true

/-- The names of all columns of the result, from left to right. -/
def resultNames (c : Connection σ ρ) (q : Query) : List Expr → Session σ (List String)
  | [] => return []
  | column :: rest => do
    let names ← q.selectedNames c (Selected.ofTemplate column.template)
    return names ++ (← q.resultNames c rest)

/-- The position of each column of the result. -/
def resolveColumns (c : Connection σ ρ) (q : Query) : Session σ ColumnMap := do
  return ColumnMap.ofNames (← q.resultNames c q.columns)

end Query

end TypedSql
