import TypedSql.Expr.Term

namespace TypedSql

inductive JoinKind where
  | cross
  | inner
  | leftOuter
  deriving DecidableEq, Repr

/-- The words before JOIN. -/
def JoinKind.keyword : JoinKind → String
  | cross => "CROSS"
  | inner => "INNER"
  | leftOuter => "LEFT OUTER"

/-- One joined query. The condition already holds the filter of the target. -/
structure Join (Q : Type) where
  kind : JoinKind
  target : Q
  condition : Expr

/-- The terms that rows are grouped by, and the condition that groups must meet. -/
structure Group where
  terms : List Expr
  condition : Option Expr := none

/-- At most `length` rows, after `offset` of them. -/
structure Limit where
  length : Nat
  offset : Option Nat := none
  deriving DecidableEq, Repr

/-- A query over one table. -/
structure Query where
  table : TableRef
  distinct : Bool := false
  columns : List Expr := [.star]
  joins : List (Join Query) := []
  filter : Option Expr := none
  group : Option Group := none
  order : List Expr := []
  limit : Option Limit := none
  unions : List Query := []

namespace Query

/-- All columns of a table. -/
def ofTable (name : String) (schema : Option String := none) : Query :=
  { table := { name, schema } }

def select (q : Query) (columns : List Expr) : Query :=
  { q with distinct := false, columns }

def selectDistinct (q : Query) (columns : List Expr) : Query :=
  { q with distinct := true, columns }

/-- The same query, selecting every column. -/
def selectAll (q : Query) : Query :=
  q.select [.star]

/-- Two predicates at once. -/
def conjoin (first second : Expr) : Expr :=
  .binary .and first second

/-- Joins a target; its filter becomes part of the condition. -/
def joinWith (q : Query) (kind : JoinKind) (target : Query) (on : Expr) : Query :=
  let condition := match target.filter with
    | none => on
    | some filter => conjoin on filter
  { q with joins := q.joins ++ [{ kind, target, condition }] }

def join (q : Query) (target : Query) (on : Expr) : Query :=
  q.joinWith .inner target on

/-- Keeps the rows that satisfy the predicate as well. -/
def restrict (q : Query) (predicate : Expr) : Query :=
  let filter := match q.filter with
    | none => predicate
    | some existing => conjoin existing predicate
  { q with filter := some filter }

def groupBy (q : Query) (terms : List Expr) (condition : Option Expr := none) : Query :=
  { q with group := some { terms, condition } }

def orderBy (q : Query) (terms : List Expr) : Query :=
  { q with order := terms }

/-- At most so many rows, from the first one on. -/
def take (q : Query) (length : Nat) : Query :=
  { q with limit := some { length } }

/-- At most so many rows, after some others. -/
def takeFrom (q : Query) (length offset : Nat) : Query :=
  { q with limit := some { length, offset := some offset } }

def withoutLimit (q : Query) : Query :=
  { q with limit := none }

def union (q : Query) (other : Query) : Query :=
  { q with unions := q.unions ++ [other] }

/-- Gives the table a label to go by. -/
def labelled (q : Query) (label : String) : Query :=
  { q with table := { q.table with label := some label } }

/-- The first row alone, with the offset of the query. -/
def first (q : Query) : Query :=
  match q.limit.bind Limit.offset with
  | none => q.take 1
  | some offset => q.takeFrom 1 offset

/-- What the query selects, from its table alone and without its label. -/
def probe (q : Query) : Query :=
  { table := q.table.unlabelled, distinct := q.distinct, columns := q.columns }

/-- All columns of this query's table, as a column of a larger query. -/
def star (q : Query) : Expr :=
  .qualified q.table .star

end Query

/-- A query of one typed column. -/
structure ScalarQuery (t : SqlType) where
  source : Query
  column : Term t
  distinct : Bool := false

/-- The query to run. -/
def ScalarQuery.query (s : ScalarQuery t) : Query :=
  if s.distinct then s.source.selectDistinct [s.column.expr] else s.source.select [s.column.expr]

/-- The number of rows. -/
def Query.count (q : Query) : ScalarQuery (.required .int64) :=
  { source := q, column := Term.countAll }

end TypedSql
