import TypedSql.Proofs.RangeGrouping

namespace TypedSql

open Reading

namespace NegationSample

def item : Term (.nullable .bool) :=
  .column _ "a"

def negation : Term (.nullable .bool) :=
  item.complement (Eq.refl true)

/-- The operation on the value of the negation where the item is true. -/
def expected (other : Option Bool) (kind : Use.Kind) : Option Value :=
  (kind.use other).value (.uniform (.int 1)) ((Interpretation.uniform (.int 1)).apply .not (.int 1))

/-- The value by the tokens of the outer expression. -/
def actual (other : Option Bool) (kind : Use.Kind) : Option Value :=
  (Reading.read ((kind.use other).expr negation (SqlType.base_nullable .bool)).tokens).map
    (Tree.value (.uniform (.int 1)))

end NegationSample

/-- Where a negation does not hold, an item that is true shows it. -/
theorem negation_keeps_or_sample (kind : Use.Kind) :
    kind.Keeps Expr.atomLevel UnaryOp.not.level ∨
      ∃ other ∈ [none, some true, some false],
        NegationSample.actual other kind ≠ NegationSample.expected other kind := by
  have all : ∀ kind ∈ Use.Kind.all, kind.Keeps Expr.atomLevel UnaryOp.not.level ∨
      ∃ other ∈ [none, some true, some false],
        NegationSample.actual other kind ≠ NegationSample.expected other kind := by
    decide +kernel
  exact all kind kind.mem_all

/-- Exactly some uses of a negation keep its grouping: for every item, every other operand
and every row, the text of the outer expression has the value of the operation on the
negated value. -/
theorem negation_keeps_value_iff (kind : Use.Kind) :
    (∀ {t : SqlType} (truth : t.base = .bool) (a : Term t) (use : Use t) (I : Interpretation),
      a.expr.Typed t → use.kind = kind → use.Fits →
      ∃ v w, a.expr.value? I = some v ∧ use.value I (I.apply .not v) = some w ∧
        (use.expr (a.complement (BaseType.isInvertible_of_bool truth)) truth).value? I = some w) ↔
      kind.Keeps Expr.atomLevel UnaryOp.not.level := by
  constructor
  · intro kept
    refine (negation_keeps_or_sample kind).resolve_right ?_
    rintro ⟨other, _, differs⟩
    have typed : NegationSample.item.expr.Typed (.nullable .bool) := .column "a"
    have fits := Use.Kind.fits_use other kind
    obtain ⟨v, w, item, expected, outer⟩ :=
      kept rfl NegationSample.item (kind.use other) (.uniform (.int 1))
      typed (Use.Kind.kind_use _ _) fits
    rw [NegationSample.item, Term.column, Expr.value?_column] at item
    obtain rfl := Option.some.inj item
    have plain :
        ((kind.use other).expr NegationSample.negation (SqlType.base_nullable .bool)).Plain :=
      Use.plain_expr rfl (.unary _ typed.plain) fits
    exact differs ((plain.value?_eq _).symm.trans (outer.trans expected.symm))
  · rintro keeps t truth a use I typed rfl fits
    obtain ⟨s, reads⟩ := typed.plain.reads
    have shape : (a.complement (BaseType.isInvertible_of_bool truth)).expr =
        .unary .not a.expr := by
      simp [Term.complement, truth]
    have negation : (a.complement (BaseType.isInvertible_of_bool truth)).expr.value? I =
        some (I.apply .not (s.value I)) := by
      rw [shape]
      exact (reads.unary .not).value? (.unary _ typed.plain) I
    have admits : use.Admits (a.complement (BaseType.isInvertible_of_bool truth)).expr := by
      rw [shape]
      exact Use.Kind.Keeps.admits keeps
    obtain ⟨w, operation, outer⟩ := Use.value_expr truth (by rw [shape]; exact .unary _ typed.plain)
      (by simp [shape]) negation fits admits
    exact ⟨s.value I, w, reads.value? typed.plain I, operation, outer⟩

/-- A negated true value is not NULL. The text negates that the value is NULL. -/
theorem null_test_is_negated :
    let a := Term.column (.nullable .bool) "a"
    let I := Interpretation.uniform (.int 1)
    (Use.isNull : Use (.nullable .bool)).value I (I.apply .not (.int 1)) = some (.int 0) ∧
      ((Use.isNull : Use (.nullable .bool)).expr a.complement rfl).value? I = some (.int 1) := by
  decide +kernel

end TypedSql
