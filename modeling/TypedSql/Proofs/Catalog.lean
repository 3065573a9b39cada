import TypedSql.Proofs.QualifiedNames
import TypedSql.Proofs.SessionRun
import TypedSql.Proofs.Wildcards

/-! What a database returns for a SELECT. Every table has a fixed list of columns. A star
gives the columns of all tables of the query, the star of a reference those of the table
it refers to, and any other selected item gives one column. -/
namespace TypedSql

/-- The columns of each table, by schema and name, and how the database names a column
that is no column of a table. -/
structure Catalog where
  columns : Option String → String → List String
  label : Fragment → String

/-- One column of a result. -/
inductive ResultColumn where
  | ofTable (table : TableRef) (column : String)
  | ofExpression (fragment : Fragment)
  deriving DecidableEq

/-- The tables that a query reads, its own and then those it joins. -/
def Query.tables (q : Query) : List TableRef :=
  q.table :: q.joins.map fun join => join.target.table

theorem Query.tables_eq (q : Query) : q.tables = q.sources.map Query.table := by
  simp [tables, sources, selectAll, select]

namespace Catalog

def tableColumns (d : Catalog) (table : TableRef) : List String :=
  d.columns table.schema table.name

/-- All columns of a table, as columns of a result. -/
def allOf (d : Catalog) (table : TableRef) : List ResultColumn :=
  (d.tableColumns table).map (.ofTable table)

/-- The columns that one selected item gives. -/
def selected (d : Catalog) (tables : List TableRef) (item : Expr) : List ResultColumn :=
  if item.template = "*" then tables.flatMap d.allOf
  else match tables.find? fun table => item.template = table.reference.template ++ ".*" with
    | some table => d.allOf table
    | none => [.ofExpression item.fragment]

theorem selected_of_append (d : Catalog) {item : Expr} {reference : String}
    (starOf : item.template = reference ++ ".*") (sources : List Query) :
    d.selected (sources.map Query.table) item =
      match sources.find? fun source => source.table.reference.template = reference with
      | some source => d.allOf source.table
      | none => [.ofExpression item.fragment] := by
  have notStar : item.template ≠ "*" := by
    intro star
    have lengths := congrArg (fun text => text.toList.length) (starOf.symm.trans star)
    simp at lengths
  have refers (table : TableRef) :
      item.template = table.reference.template ++ ".*" ↔ table.reference.template = reference := by
    simp [starOf, ← String.toList_inj, eq_comm]
  rw [selected, if_neg notStar, List.find?_map]
  simp only [refers, Function.comp_def]
  cases sources.find? fun source => source.table.reference.template = reference <;> rfl

theorem selected_of_not_wildcard (d : Catalog) {item : Expr} (plain : ¬ IsWildcard item.template)
    (tables : List TableRef) : d.selected tables item = [.ofExpression item.fragment] := by
  have noTable : (tables.find? fun table => item.template = table.reference.template ++ ".*") =
      none := by
    rw [List.find?_eq_none]
    intro table _ starOf
    exact plain (.inr ⟨table.reference.template, of_decide_eq_true starOf⟩)
  rw [selected, if_neg fun star => plain (.inl star), noTable]

/-- The columns of the result, from left to right. -/
def resultColumns (d : Catalog) (q : Query) : List ResultColumn :=
  q.columns.flatMap (d.selected q.tables)

/-- What the database calls a column of a result. -/
def nameOf (d : Catalog) : ResultColumn → String
  | .ofTable _ column => column
  | .ofExpression fragment => d.label fragment

def columnNames (d : Catalog) (q : Query) : List String :=
  (d.resultColumns q).map d.nameOf

/-- What the sources of a query report about their own statements is what the database
calls the columns of these statements. -/
def Reports (d : Catalog) (c : Connection σ ρ) (q : Query) : Prop :=
  ∀ source ∈ q.sources, ∀ s columns next,
    (source.reportedColumns c).runFrom s = (.ok columns, next) →
    columns = d.columnNames source.probe

theorem columnNames_probe (d : Catalog) {source : Query}
    (everything : source.columns.map Expr.template = ["*"]) :
    d.columnNames source.probe = d.tableColumns source.table := by
  obtain ⟨column, single, star⟩ := List.map_eq_singleton_iff.1 everything
  have returned : d.resultColumns source.probe = d.allOf source.table.unlabelled := by
    simp [resultColumns, Query.probe, Query.tables, selected, single, star]
  have named : d.nameOf ∘ ResultColumn.ofTable source.table.unlabelled = id := rfl
  rw [columnNames, returned, allOf, List.map_map, named, List.map_id]
  rfl

end Catalog

/-- The names under which a column of a result can be read: a column of a table by its
qualified name or, where it is `bare`, by its own, an expression by its text. -/
def ResultColumn.GoesBy (bare : Bool) (name : String) : ResultColumn → Prop
  | .ofTable table column =>
    name = Text.qualify table.reference.template column ∨ bare = true ∧ name = Text.quote column
  | .ofExpression fragment => name = fragment.template

/-- A star of the query stands for the columns of the join target, among others or alone. -/
def Query.Expands (q target : Query) : Prop :=
  ∃ e ∈ q.columns, e.template = "*" ∨ e.template = target.table.reference.template ++ ".*"

/-- The own selection of each join target that a star stands for has the columns of its table. -/
def Catalog.ExpandsWhole (d : Catalog) (q : Query) : Prop :=
  ∀ join ∈ q.joins, q.Expands join.target →
    d.columnNames join.target.probe = d.tableColumns join.target.table

end TypedSql
