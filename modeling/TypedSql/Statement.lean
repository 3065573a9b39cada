import TypedSql.Query.Select

namespace TypedSql

open Query (keyword)

/-- A column and the value it is set to. -/
structure Setter where
  column : Expr
  value : Expr

/-- Sets a column to an operand of its type. -/
def Term.set (column : Term t) (value : Operand t) : Setter :=
  ⟨column.expr, value.expr⟩

def Setter.assignment (s : Setter) : Fragment :=
  .join " = " [s.column.fragment, s.value.fragment]

/-- What becomes of a row that breaks a constraint. -/
inductive OnConflict where
  | replace
  | rollback
  | abort
  | fail
  | ignore
  deriving DecidableEq, Repr

def OnConflict.keyword : OnConflict → String
  | replace => "REPLACE"
  | rollback => "ROLLBACK"
  | abort => "ABORT"
  | fail => "FAIL"
  | ignore => "IGNORE"

/-- A change to a table. -/
inductive Command where
  /-- A new row; without setters, a row of defaults. -/
  | insert (target : Query) (onConflict : Option OnConflict) (setters : List Setter)
  /-- The rows of another query. -/
  | insertRows (target source : Query)
  | update (target : Query) (setters : List Setter)
  | delete (target : Query)

namespace Command

def conflictClause? (onConflict : Option OnConflict) : Option Fragment :=
  onConflict.map fun resolution => Query.keyword ("OR " ++ resolution.keyword)

/-- The columns and values of a new row, and the filter of the target behind them. -/
def rowClauses (target : Query) : List Setter → List Fragment
  | [] => [Query.keyword "DEFAULT VALUES"]
  | setters =>
    [.wrap "" (Expr.list (setters.map Setter.column)), Query.keyword "VALUES",
      .wrap "" (Expr.list (setters.map Setter.value))] ++ target.whereClause?.toList

def fragment : Command → Fragment
  | insert target onConflict setters =>
    .clauses ([Query.keyword "INSERT"] ++ (conflictClause? onConflict).toList ++
      [Query.keyword "INTO", target.table.reference] ++ rowClauses target setters)
  | insertRows target source =>
    .clauses [Query.keyword "INSERT INTO", target.table.reference, source.fragment]
  | update target setters =>
    .clauses ([Query.keyword "UPDATE", target.table.reference, Query.keyword "SET",
      .join ", " (setters.map Setter.assignment)] ++
      [target.whereClause?, target.orderClause?, target.limitClause?].filterMap id)
  | delete target =>
    .clauses ([Query.keyword "DELETE FROM", target.table.reference] ++
      [target.whereClause?, target.orderClause?, target.limitClause?].filterMap id)

end Command

/-- Anything that compiles to a whole statement. -/
inductive Statement where
  | select (query : Query)
  | exists (query : Query)
  | command (change : Command)

def Statement.fragment : Statement → Fragment
  | .select query => query.fragment
  | .exists query => .clauses [keyword "SELECT", .wrap "EXISTS" query.fragment]
  | .command change => change.fragment

end TypedSql
