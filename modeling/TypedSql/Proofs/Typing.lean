import TypedSql.Expr.Term
import TypedSql.Proofs.Reading.Operands

/-! The typing rules of expressions. The typed operations build only expressions that have
a type by these rules, so what holds of typed expressions holds of all that they build. -/
namespace TypedSql

open Reading

/-- The operators that compare two values. -/
def BinaryOp.compares : BinaryOp → Bool
  | eq | notEq | lt | ltEq | gt | gtEq => true
  | _ => false

/-- The base types on which an operator gives a value of the same base type. -/
def BinaryOp.combines : BinaryOp → BaseType → Bool
  | and, base | or, base => base = .bool
  | concat, base => base = .text
  | add, base | sub, base | mul, base | div, base => base.isNumeric
  | rem, base | shiftLeft, base | shiftRight, base | bitAnd, base | bitOr, base => base.isInteger
  | _, _ => false

/-- The type of an aggregate over values of a type, if it has one. -/
def Aggregate.resultType? (function : Aggregate) (t : SqlType) : Option SqlType :=
  match function with
  | count => some (.required .int64)
  | max | min => some t.optional
  | average => if t.base.isNumeric then some (.nullable .real) else none
  | sum => if t.base.isNumeric then some t.optional else none
  | total => if t.base.isNumeric then some (.required .real) else none

namespace Expr

inductive Typed : SqlType → Expr → Prop where
  | column (name : String) : Typed t (.column name)
  | qualified (table : TableRef) (reference : item.isReference = true) (inner : Typed t item) :
      Typed t (.qualified table item)
  | bound (value : Value) : Typed t (.bound value)
  | null : Typed (.nullable base) .null
  | rowid : Typed (.required .int64) .rowid
  | countAll : Typed (.required .int64) .countAll
  | nullable (inner : Typed t e) : Typed t.optional e
  | cast (target : SqlType) (inner : Typed t e) : Typed target (.cast e target.base.declared)
  | call (name : String) (types : Expr → SqlType)
      (each : ∀ argument ∈ arguments, Typed (types argument) argument) :
      Typed t (.call name arguments)
  | comparison (compares : op.compares = true) (same : u.base = t.base) (first : Typed t left)
      (second : Typed u right) : Typed t.predicate (.binary op left right)
  | nullTest (test : op = .is ∨ op = .isNot)
      (inner : Typed t e) : Typed t.predicate (.binary op e .null)
  | like (text : t.base = .text) (pattern : String) (inner : Typed t e) :
      Typed t.predicate (.binary .like e (.bound (.text pattern)))
  | member (negated : Bool) (values : List t.base.Host) (inner : Typed t e) :
      Typed t.predicate (.member negated e (values.map t.base.encode))
  | within (interval : Interval t.base.Host) (inner : Typed t e) :
      Typed t.predicate (.within e (interval.map t.base.encode))
  | combination (combines : op.combines t.base = true) (same : u.base = t.base)
      (first : Typed t left)
      (second : Typed u right) : Typed t (.binary op left right)
  | neg (numeric : t.base.isNumeric = true) (inner : Typed t e) : Typed t (.unary .neg e)
  | complement (invertible : t.base.isInvertible = true) (inner : Typed t e) :
      Typed t (.unary (if t.base = .bool then .not else .bitNot) e)
  | aggregate (result : function.resultType? t = some u)
      (inner : Typed t e) : Typed u (.aggregate function e)
  | aggregateDistinct (result : function.resultType? t = some u) (inner : Typed t e) :
      Typed u (.aggregate function (.distinct e))

theorem Typed.plain {t : SqlType} {e : Expr} (typed : Typed t e) : e.Plain := by
  induction typed with
  | column name => exact .column name
  | qualified table reference _ ih => exact .qualified table reference ih
  | bound value => exact .bound value
  | null => exact .null
  | rowid => exact .rowid
  | countAll => exact .countAll
  | nullable _ ih => exact ih
  | cast target _ ih => exact .cast _ ih
  | call name _ _ ih => exact .call name ih
  | comparison _ _ _ _ first second => exact .binary _ first second
  | nullTest _ _ ih => exact .binary _ ih .null
  | like _ _ _ ih => exact .binary _ ih (.bound _)
  | member negated values _ ih => exact .member negated _ ih
  | within interval _ ih => exact .within _ ih
  | combination _ _ _ _ first second => exact .binary _ first second
  | neg _ _ ih => exact .unary _ ih
  | complement _ _ ih => exact .unary _ ih
  | aggregate _ _ ih => exact .aggregate _ ih
  | aggregateDistinct _ _ ih => exact .aggregateDistinct _ ih

theorem base_predicate (t : SqlType) : t.predicate.base = .bool := by
  cases t <;> rfl

/-- Only truth values are read by the levels of what they are made of. -/
theorem Typed.levels {t : SqlType} {e : Expr} (typed : Typed t e) (notBool : t.base ≠ .bool) :
    e.leftLevel = atomLevel ∧ UnaryOp.neg.level ≤ e.rightLevel := by
  induction typed with
  | nullable _ ih => exact ih notBool
  | within => exact absurd (base_predicate _) notBool
  | complement => simp_all [leftLevel, rightLevel, UnaryOp.level]
  | _ => simp [leftLevel, rightLevel, UnaryOp.level, atomLevel]

end Expr

end TypedSql
