import TypedSql.Expr.Term
import TypedSql.Proofs.Regions

namespace TypedSql.Expr

open Fragment (ofText)

/-- A value as a text of its own. -/
def placed (write : Value → String) (value : Value) : Expr :=
  .raw (ofText (write value))

/-- The test that an item lies between bounds that are expressions themselves. -/
def rangeTest (item : Expr) : Interval Expr → Expr
  | .closed low high => .operation "BETWEEN" item (.operation "AND" low high false) false
  | .halfOpen low high =>
    .joined " AND " [.operation ">=" item low false, .operation "<" item high false]
  | .atMost high => .operation "<=" item high false
  | .below high => .operation "<" item high false
  | .atLeast low => .operation ">=" item low false

mutual

/-- The expression with each bound value written where it stands. -/
def writtenOut (write : Value → String) : Expr → Expr
  | column name => .column name
  | qualified table item => .qualified table (item.writtenOut write)
  | bound value => placed write value
  | null => .null
  | star => .star
  | rowid => .rowid
  | countAll => .countAll
  | binary op left right => .binary op (left.writtenOut write) (right.writtenOut write)
  | unary op operand => .unary op (operand.writtenOut write)
  | member negated item values =>
    .operation (if negated then "NOT IN" else "IN") (item.writtenOut write)
      (.wrap "" (.joined ", " (values.map (placed write)))) true
  | within item interval => rangeTest (item.writtenOut write) (interval.map (placed write))
  | aggregate function item => .aggregate function (item.writtenOut write)
  | distinct item => .distinct (item.writtenOut write)
  | cast item target => .cast (item.writtenOut write) target
  | call name arguments => .call name (writtenOutAll write arguments)
  | ordered item direction => .ordered (item.writtenOut write) direction
  | raw fragment =>
    .raw (ofText (String.ofList
      (Text.filled write .plain fragment.template.toList fragment.bindings)))
  | joined separator items => .joined separator (writtenOutAll write items)
  | operation op left right wrapped =>
    .operation op (left.writtenOut write) (right.writtenOut write) wrapped
  | wrap head item => .wrap head (item.writtenOut write)

/-- The expressions of a list, one by one. -/
def writtenOutAll (write : Value → String) : List Expr → List Expr
  | [] => []
  | item :: rest => item.writtenOut write :: writtenOutAll write rest

end

mutual

/-- The texts that an expression takes from outside: whole fragments, and the
separators, operators and heads of the open combinators. -/
def raws : Expr → List Fragment
  | qualified _ item | unary _ item | member _ item _ | within item _ | aggregate _ item
  | distinct item | cast item _ | ordered item _ => item.raws
  | binary _ left right => left.raws ++ right.raws
  | call _ arguments => rawsAll arguments
  | raw fragment => [fragment]
  | joined separator items => ofText separator :: rawsAll items
  | operation op left right _ => ofText op :: (left.raws ++ right.raws)
  | wrap head item => ofText head :: item.raws
  | _ => []

def rawsAll : List Expr → List Fragment
  | [] => []
  | item :: rest => item.raws ++ rawsAll rest

end

/-- Every text from outside leaves no quote open and binds as many values as it has
placeholders. -/
def Balanced (e : Expr) : Prop :=
  ∀ f ∈ e.raws, f.Balanced

instance (e : Expr) : Decidable e.Balanced :=
  inferInstanceAs (Decidable (∀ f ∈ e.raws, f.Balanced))

section WritesTo
variable {write : Value → String}

theorem writesTo_placed (write : Value → String) (value : Value) :
    (Fragment.bound value).WritesTo write (placed write value).fragment := by
  simpa [placed, fragment] using Fragment.WritesTo.bound value

/-- A range test repeats its item together with the bindings of the item. -/
theorem writesTo_rangeTest {item : Fragment} {result : Expr}
    (written : item.WritesTo write result.fragment) (interval : Interval Value) :
    (intervalTest item interval).WritesTo write
      (rangeTest result (interval.map (placed write))).fragment := by
  have test (op : String) (balanced : (ofText op).Balanced) (value : Value) :
      (Fragment.operation op item (.bound value) false).WritesTo write
        (Expr.operation op result (placed write value) false).fragment := by
    simpa only [fragment] using written.operation op balanced (writesTo_placed write value) false
  rw [intervalTest_eq]
  cases interval with
  | closed low high =>
    have bounds := (writesTo_placed write low).operation "AND" (by decide)
      (writesTo_placed write high) false
    simpa only [Interval.map, rangeTest, fragment] using
      written.operation "BETWEEN" (by decide) bounds false
  | halfOpen low high =>
    have both := List.Forall₂.cons (test ">=" (by decide) low)
      (.cons (test "<" (by decide) high) .nil)
    simpa only [Interval.map, rangeTest, fragment, fragments] using
      Fragment.WritesTo.join (by decide) both
  | atMost high => exact test "<=" (by decide) high
  | below high => exact test "<" (by decide) high
  | atLeast low => exact test ">=" (by decide) low

theorem writesTo_reference (write : Value → String) (table : TableRef) :
    table.reference.WritesTo write table.reference :=
  TableRef.congruent_reference (Fragment.WritesTo.congruent write) fun name _ =>
    .identifier write name

private theorem balanced_symbol (op : BinaryOp) : (ofText op.symbol).Balanced := by
  cases op <;> decide

mutual

/-- Filling the placeholders of an expression in order writes each value where the
expression has it. -/
theorem writesTo_writtenOut (write : Value → String) :
    (e : Expr) → e.Balanced → e.fragment.WritesTo write (e.writtenOut write).fragment
  | column name, _ => .identifier write name
  | qualified table item, balanced => by
    have inner := writesTo_writtenOut write item balanced
    simpa only [fragment, writtenOut] using
      .join (by decide) (.cons (writesTo_reference write table) (.cons inner .nil))
  | bound value, _ => writesTo_placed write value
  | null, _ | star, _ | rowid, _ | countAll, _ => by
    simpa only [fragment, writtenOut] using Fragment.Balanced.ofText (by decide)
  | binary op left right, balanced => by
    obtain ⟨leftBalanced, rightBalanced⟩ := List.forall_mem_append.1 balanced
    simpa only [fragment, writtenOut] using
      (writesTo_writtenOut write left leftBalanced).operation op.symbol (balanced_symbol op)
        (writesTo_writtenOut write right rightBalanced) true
  | unary op operand, balanced => by
    have inner := writesTo_writtenOut write operand balanced
    simpa only [fragment, writtenOut] using inner.wrap op.head (by cases op <;> decide)
  | member negated item values, balanced => by
    have inner := writesTo_writtenOut write item balanced
    have each : List.Forall₂ (Fragment.WritesTo write) (values.map .bound)
        (fragments (values.map (placed write))) := by
      rw [fragments_eq_map, List.map_map]
      simpa using fun value _ => writesTo_placed write value
    have comma : (ofText ", ").Balanced := by decide
    have list := (Fragment.WritesTo.join comma each).wrap "" (by decide)
    simpa only [fragment, writtenOut] using
      inner.operation (if negated then "NOT IN" else "IN") (by cases negated <;> decide) list true
  | within item interval, balanced => by
    have inner := writesTo_writtenOut write item balanced
    simpa only [fragment, writtenOut] using writesTo_rangeTest inner interval
  | aggregate function item, balanced => by
    have inner := writesTo_writtenOut write item balanced
    simpa only [fragment, writtenOut] using inner.wrap function.name (by cases function <;> decide)
  | distinct item, balanced => by
    have inner := writesTo_writtenOut write item balanced
    have head : (ofText "DISTINCT ").Balanced := by decide
    have tail : (ofText "").Balanced := by decide
    simpa only [fragment, writtenOut, String.append_empty] using inner.between head tail
  | cast item target, balanced => by
    have inner := writesTo_writtenOut write item balanced
    have head : (ofText "CAST(").Balanced := by decide
    have tail : (ofText (" AS " ++ target.keyword ++ ")")).Balanced := by cases target <;> decide
    simpa only [fragment, writtenOut, String.append_assoc] using inner.between head tail
  | call name arguments, balanced => by
    have comma : (ofText ", ").Balanced := by decide
    have inner := Fragment.WritesTo.join comma (writesTo_writtenOutAll write arguments balanced)
    simpa only [fragment, writtenOut] using inner.wrap _ (Fragment.balanced_quote name)
  | ordered item direction, balanced => by
    have inner := writesTo_writtenOut write item balanced
    have keyword : (ofText direction.keyword).Balanced := by cases direction <;> decide
    simpa only [fragment, writtenOut] using .clauses (.cons inner (.cons keyword.ofText .nil))
  | raw fragment, balanced =>
    ⟨balanced fragment (List.mem_singleton.2 rfl), by simp [Expr.fragment, writtenOut], rfl⟩
  | joined separator items, balanced => by
    obtain ⟨separatorBalanced, itemsBalanced⟩ := List.forall_mem_cons.1 balanced
    simpa only [fragment, writtenOut] using
      .join separatorBalanced (writesTo_writtenOutAll write items itemsBalanced)
  | operation op left right wrapped, balanced => by
    obtain ⟨opBalanced, operands⟩ := List.forall_mem_cons.1 balanced
    obtain ⟨leftBalanced, rightBalanced⟩ := List.forall_mem_append.1 operands
    simpa only [fragment, writtenOut] using
      (writesTo_writtenOut write left leftBalanced).operation op opBalanced
        (writesTo_writtenOut write right rightBalanced) wrapped
  | wrap head item, balanced => by
    obtain ⟨headBalanced, itemBalanced⟩ := List.forall_mem_cons.1 balanced
    simpa only [fragment, writtenOut] using
      (writesTo_writtenOut write item itemBalanced).wrap head headBalanced

theorem writesTo_writtenOutAll (write : Value → String) :
    (items : List Expr) → (∀ f ∈ rawsAll items, f.Balanced) →
      List.Forall₂ (Fragment.WritesTo write) (fragments items)
        (fragments (writtenOutAll write items))
  | [], _ => .nil
  | item :: rest, balanced => by
    obtain ⟨itemBalanced, restBalanced⟩ := List.forall_mem_append.1 balanced
    exact .cons (writesTo_writtenOut write item itemBalanced)
      (writesTo_writtenOutAll write rest restBalanced)

end

end WritesTo

end TypedSql.Expr
