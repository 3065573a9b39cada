import TypedSql.Expr.Basic

/-! Expressions under a type. The operations exist only where SQL gives them a
meaning: a comparison has an operand of the same base type, arithmetic needs
numbers, and the result carries the type that reading it will give. -/
namespace TypedSql

/-- An expression of type `t`. -/
structure Term (t : SqlType) where
  expr : Expr

/-- The right-hand side of an operation on a term of type `t`. -/
structure Operand (t : SqlType) where
  expr : Expr

namespace Operand

def value (v : t.base.Host) : Operand t :=
  ⟨.bound (t.base.encode v)⟩

/-- A missing value is the word NULL. -/
def ofOption (_nullable : t.isNullable) : Option t.base.Host → Operand t
  | some v => value v
  | none => ⟨.null⟩

/-- A small integer beside a wide one. -/
def ofInt32 (_wide : t.base = .int64) (n : Int32) : Operand t :=
  ⟨.bound (.int n.toInt64)⟩

/-- A term of the same base type, nullable or not. -/
def term (x : Term u) (_same : u.base = t.base) : Operand t :=
  ⟨x.expr⟩

end Operand

namespace Term

def column (t : SqlType) (name : String) : Term t :=
  ⟨.column name⟩

def raw (t : SqlType) (fragment : Fragment) : Term t :=
  ⟨.raw fragment⟩

def bound (t : SqlType) (value : Value) : Term t :=
  ⟨.bound value⟩

def value (t : SqlType) (v : t.base.Host) : Term t :=
  ⟨.bound (t.base.encode v)⟩

def null (t : SqlType) : Term t.optional :=
  ⟨.null⟩

def rowid : Term (.required .int64) :=
  ⟨.rowid⟩

def countAll : Term (.required .int64) :=
  ⟨.countAll⟩

/-- A function of the database, called by name. -/
def call (t : SqlType) (name : String) (arguments : List Expr) : Term t :=
  ⟨.call name arguments⟩

def template (x : Term t) : String :=
  x.expr.template

def nullable (x : Term t) : Term t.optional :=
  ⟨x.expr⟩

def cast (x : Term t) (target : SqlType) : Term target :=
  ⟨.cast x.expr target.base.declared⟩

/-- The column of one table among several. -/
def qualified (table : TableRef) (x : Term t) : Term t :=
  ⟨.qualified table x.expr⟩

section Tests
variable (x : Term t)

private def test (op : BinaryOp) (rhs : Expr) : Term t.predicate :=
  ⟨.binary op x.expr rhs⟩

/-- Equality, or the test for NULL when NULL stands on the right. -/
def eq (rhs : Operand t) : Term t.predicate :=
  x.test (if rhs.expr.fragment.isNullLiteral then .is else .eq) rhs.expr

/-- Inequality, or the test for a value when NULL stands on the right. -/
def notEq (rhs : Operand t) : Term t.predicate :=
  x.test (if rhs.expr.fragment.isNullLiteral then .isNot else .notEq) rhs.expr

def lt (rhs : Operand t) : Term t.predicate := x.test .lt rhs.expr
def ltEq (rhs : Operand t) : Term t.predicate := x.test .ltEq rhs.expr
def gt (rhs : Operand t) : Term t.predicate := x.test .gt rhs.expr
def gtEq (rhs : Operand t) : Term t.predicate := x.test .gtEq rhs.expr
def isNull : Term t.predicate := x.test .is .null
def isNotNull : Term t.predicate := x.test .isNot .null

def inList (values : List t.base.Host) : Term t.predicate :=
  ⟨.member false x.expr (values.map t.base.encode)⟩

def notInList (values : List t.base.Host) : Term t.predicate :=
  ⟨.member true x.expr (values.map t.base.encode)⟩

def within (interval : Interval t.base.Host) : Term t.predicate :=
  ⟨.within x.expr (interval.map t.base.encode)⟩

def between (low high : t.base.Host) : Term t.predicate :=
  x.within (.closed low high)

def like (pattern : String) (_text : t.base = .text := by decide) : Term t.predicate :=
  x.test .like (.bound (.text pattern))

end Tests

section Operations
variable (x : Term t)

private def binary (op : BinaryOp) (rhs : Operand t) : Term t :=
  ⟨.binary op x.expr rhs.expr⟩

def concat (rhs : Operand t) (_text : t.base = .text := by decide) : Term t :=
  x.binary .concat rhs

def and (rhs : Operand t) (_truth : t.base = .bool := by decide) : Term t :=
  x.binary .and rhs

def or (rhs : Operand t) (_truth : t.base = .bool := by decide) : Term t :=
  x.binary .or rhs

def add (rhs : Operand t) (_numeric : t.base.isNumeric := by decide) : Term t :=
  x.binary .add rhs

def sub (rhs : Operand t) (_numeric : t.base.isNumeric := by decide) : Term t :=
  x.binary .sub rhs

def mul (rhs : Operand t) (_numeric : t.base.isNumeric := by decide) : Term t :=
  x.binary .mul rhs

def div (rhs : Operand t) (_numeric : t.base.isNumeric := by decide) : Term t :=
  x.binary .div rhs

def rem (rhs : Operand t) (_integer : t.base.isInteger := by decide) : Term t :=
  x.binary .rem rhs

def shiftLeft (rhs : Operand t) (_integer : t.base.isInteger := by decide) : Term t :=
  x.binary .shiftLeft rhs

def shiftRight (rhs : Operand t) (_integer : t.base.isInteger := by decide) : Term t :=
  x.binary .shiftRight rhs

def bitAnd (rhs : Operand t) (_integer : t.base.isInteger := by decide) : Term t :=
  x.binary .bitAnd rhs

def bitOr (rhs : Operand t) (_integer : t.base.isInteger := by decide) : Term t :=
  x.binary .bitOr rhs

/-- SQL has no exclusive or: it is what is in either operand and not in both. -/
def bitXor (rhs : Operand t) (_integer : t.base.isInteger := by decide) : Term t :=
  ⟨.binary .bitAnd (.unary .bitNot (.binary .bitAnd x.expr rhs.expr))
    (.binary .bitOr x.expr rhs.expr)⟩

def neg (_numeric : t.base.isNumeric := by decide) : Term t :=
  ⟨.unary .neg x.expr⟩

/-- The logical complement of a truth value, the bitwise one of an integer. -/
def complement (_invertible : t.base.isInvertible := by decide) : Term t :=
  ⟨.unary (if t.base = .bool then .not else .bitNot) x.expr⟩

end Operations

section Aggregates
variable (x : Term t)

def distinct : Term t := ⟨.distinct x.expr⟩
def count : Term (.required .int64) := ⟨.aggregate .count x.expr⟩
def max : Term t.optional := ⟨.aggregate .max x.expr⟩
def min : Term t.optional := ⟨.aggregate .min x.expr⟩

def average (_numeric : t.base.isNumeric := by decide) : Term (.nullable .real) :=
  ⟨.aggregate .average x.expr⟩

def sum (_numeric : t.base.isNumeric := by decide) : Term t.optional :=
  ⟨.aggregate .sum x.expr⟩

/-- Unlike a sum, zero over no rows. -/
def total (_numeric : t.base.isNumeric := by decide) : Term (.required .real) :=
  ⟨.aggregate .total x.expr⟩

end Aggregates

end Term

end TypedSql
