import TypedSql.TableRef
import TypedSql.Value.SqlType

/-! SQL expressions as trees, and the fragment that a tree compiles to. Binary
operators are parenthesised and unary operators applied like functions; range
tests stand bare. Text from outside enters as a `raw` fragment, or as the
separator, operator or head of one of the open combinators. -/
namespace TypedSql

/-- The binary operators that stand in parentheses. -/
inductive BinaryOp where
  | eq | notEq | lt | ltEq | gt | gtEq
  | is | isNot
  | like | concat
  | and | or
  | add | sub | mul | div | rem
  | shiftLeft | shiftRight | bitAnd | bitOr
  deriving DecidableEq, Repr

def BinaryOp.symbol : BinaryOp → String
  | eq => "="
  | notEq => "!="
  | lt => "<"
  | ltEq => "<="
  | gt => ">"
  | gtEq => ">="
  | is => "IS"
  | isNot => "IS NOT"
  | like => "LIKE"
  | concat => "||"
  | and => "AND"
  | or => "OR"
  | add => "+"
  | sub => "-"
  | mul => "*"
  | div => "/"
  | rem => "%"
  | shiftLeft => "<<"
  | shiftRight => ">>"
  | bitAnd => "&"
  | bitOr => "|"

/-- The operators written right before a parenthesised operand. -/
inductive UnaryOp where
  | neg
  | not
  | bitNot
  deriving DecidableEq, Repr

def UnaryOp.head : UnaryOp → String
  | neg => "-"
  | not => "NOT "
  | bitNot => "~"

/-- The functions over the rows of a group. -/
inductive Aggregate where
  | count | max | min | average | sum | total
  deriving DecidableEq, Repr

def Aggregate.name : Aggregate → String
  | count => "count"
  | max => "max"
  | min => "min"
  | average => "avg"
  | sum => "sum"
  | total => "total"

/-- An interval of values, by the bounds it has. -/
inductive Interval (α : Type) where
  | closed (low high : α)
  | halfOpen (low high : α)
  | atMost (high : α)
  | below (high : α)
  | atLeast (low : α)
  deriving DecidableEq

def Interval.map (f : α → β) : Interval α → Interval β
  | closed low high => .closed (f low) (f high)
  | halfOpen low high => .halfOpen (f low) (f high)
  | atMost high => .atMost (f high)
  | below high => .below (f high)
  | atLeast low => .atLeast (f low)

/-- The direction of an ordering term. -/
inductive Direction where
  | ascending
  | descending
  deriving DecidableEq, Repr

def Direction.keyword : Direction → String
  | ascending => "ASC"
  | descending => "DESC"

/-- An SQL expression. -/
inductive Expr where
  | column (name : String)
  | qualified (table : TableRef) (item : Expr)
  | bound (value : Value)
  | null
  | star
  | rowid
  | countAll
  | binary (op : BinaryOp) (left right : Expr)
  | unary (op : UnaryOp) (operand : Expr)
  | member (negated : Bool) (item : Expr) (values : List Value)
  | within (item : Expr) (interval : Interval Value)
  | aggregate (function : Aggregate) (item : Expr)
  | distinct (item : Expr)
  | cast (item : Expr) (target : DeclaredType)
  | call (name : String) (arguments : List Expr)
  | ordered (item : Expr) (direction : Direction)
  | raw (fragment : Fragment)
  | joined (separator : String) (items : List Expr)
  | operation (op : String) (left right : Expr) (wrapped : Bool)
  | wrap (head : String) (item : Expr)

namespace Expr

/-- An item against one bound. -/
private def comparison (item : Fragment) (op : String) (bound : Value) : Fragment :=
  ⟨item.template ++ " " ++ op ++ " ?", item.bindings ++ [bound]⟩

/-- The test that an item lies in an interval. A half-open interval names the item
twice. -/
def intervalTest (item : Fragment) : Interval Value → Fragment
  | .closed low high =>
    ⟨item.template ++ " BETWEEN ? AND ?", item.bindings ++ [low, high]⟩
  | .halfOpen low high =>
    .join " AND " [comparison item ">=" low, comparison item "<" high]
  | .atMost high => comparison item "<=" high
  | .below high => comparison item "<" high
  | .atLeast low => comparison item ">=" low

private theorem comparison_eq (item : Fragment) (op : String) (bound : Value) :
    comparison item op bound = .operation op item (.bound bound) false := by
  simp [comparison, Fragment.operation, Fragment.join, Fragment.bound, ← String.toList_inj]

/-- An interval test is put together from operations on placeholders. -/
theorem intervalTest_eq (item : Fragment) (interval : Interval Value) :
    intervalTest item interval =
      match interval with
      | .closed low high =>
        .operation "BETWEEN" item (.operation "AND" (.bound low) (.bound high) false) false
      | .halfOpen low high =>
        .join " AND "
          [.operation ">=" item (.bound low) false, .operation "<" item (.bound high) false]
      | .atMost high => .operation "<=" item (.bound high) false
      | .below high => .operation "<" item (.bound high) false
      | .atLeast low => .operation ">=" item (.bound low) false := by
  cases interval with
  | closed low high =>
    simp [intervalTest, Fragment.operation, Fragment.join, Fragment.bound, ← String.toList_inj]
  | _ => simp only [intervalTest, comparison_eq]

mutual

/-- What an expression compiles to. -/
def fragment : Expr → Fragment
  | column name => .identifier name
  | qualified table item => .join "." [table.reference, item.fragment]
  | bound value => .bound value
  | null => { template := "NULL" }
  | star => { template := "*" }
  | rowid => { template := "ROWID" }
  | countAll => { template := "count(*)" }
  | binary op left right => .operation op.symbol left.fragment right.fragment true
  | unary op operand => .wrap op.head operand.fragment
  | member negated item values =>
    .operation (if negated then "NOT IN" else "IN") item.fragment
      (.wrap "" (.join ", " (values.map .bound))) true
  | within item interval => intervalTest item.fragment interval
  | aggregate function item => .wrap function.name item.fragment
  | distinct item => { item.fragment with template := "DISTINCT " ++ item.fragment.template }
  | cast item target =>
    { item.fragment with
      template := "CAST(" ++ item.fragment.template ++ " AS " ++ target.keyword ++ ")" }
  | call name arguments => .wrap (Text.quote name) (.join ", " (fragments arguments))
  | ordered item direction => .clauses [item.fragment, { template := direction.keyword }]
  | raw fragment => fragment
  | joined separator items => .join separator (fragments items)
  | operation op left right wrapped => .operation op left.fragment right.fragment wrapped
  | wrap head item => .wrap head item.fragment

/-- What the expressions of a list compile to, one by one. -/
def fragments : List Expr → List Fragment
  | [] => []
  | item :: rest => item.fragment :: fragments rest

end

theorem fragments_eq_map (items : List Expr) : fragments items = items.map fragment := by
  induction items with
  | nil => simp [fragments]
  | cons item rest ih => simp [fragments, ih]

/-- The SQL text of an expression. -/
def template (e : Expr) : String :=
  e.fragment.template

/-- Expressions separated by commas. -/
def list (items : List Expr) : Fragment :=
  .join ", " (items.map fragment)

end Expr

end TypedSql
