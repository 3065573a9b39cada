import TypedSql.Proofs.Uses

namespace TypedSql

open Reading

/-- A row in which every column has one value. -/
def Interpretation.uniform (v : Value) : Interpretation where
  column _ := v
  rowid _ := .null
  counts _ := false
  binary _ _ _ := .null
  unary _ _ := .null
  cast _ a := a
  call _ _ := .null
  aggregate _ _ _ := .null
  countAll := .null

/-- A column of integers, two bounds and another operand. -/
structure RangeSample where
  column : Option Int64
  low : Int64
  high : Int64
  other : Option Bool

namespace RangeSample

def samples : List RangeSample :=
  [⟨some (-1), 0, 0, some true⟩, ⟨some 2, 3, 2, some false⟩, ⟨some 0, 0, 0, some true⟩,
    ⟨none, 0, 0, some true⟩, ⟨some 0, 0, 0, some false⟩, ⟨some 0, 1, 0, none⟩]

variable (s : RangeSample) (form : Interval Unit) (kind : Use.Kind)

def stored : Value :=
  s.column.elim .null .int

def item : Term (.nullable .int64) :=
  .column _ "n"

def test : Term (.nullable .bool) :=
  item.within (form.bounded s.low s.high)

/-- The operation on the value of the test. -/
def expected : Option Value :=
  (kind.use s.other).value (.uniform s.stored)
    (s.stored.liesIn ((form.bounded s.low s.high).map (BaseType.encode .int64))).value

/-- The value by the tokens of the outer expression. -/
def actual : Option Value :=
  (Reading.read ((kind.use s.other).expr (s.test form) (SqlType.base_nullable .bool)).tokens).map
    (Tree.value (.uniform s.stored))

end RangeSample

/-- Where a range test does not hold, some row shows it. -/
theorem keeps_or_sample (form : Interval Unit) (kind : Use.Kind) :
    (kind = .operand .and ∨ kind.Keeps form.level form.level) ∨
      ∃ s ∈ RangeSample.samples, s.actual form kind ≠ s.expected form kind := by
  have all : ∀ form ∈ Interval.forms, ∀ kind ∈ Use.Kind.all,
      (kind = .operand .and ∨ kind.Keeps form.level form.level) ∨
        ∃ s ∈ RangeSample.samples, s.actual form kind ≠ s.expected form kind := by
    decide +kernel
  exact all form form.mem_forms kind kind.mem_all

section Items
variable {t : SqlType} {x : Term t}

/-- A number leaves its range test as tight as the loosest operator of the test. -/
theorem levels_within (typed : x.expr.Typed t) (notBool : t.base ≠ .bool)
    (interval : Interval t.base.Host) :
    (x.within interval).expr.leftLevel = interval.level ∧
      (x.within interval).expr.rightLevel = interval.level := by
  obtain ⟨left, right⟩ := typed.levels notBool
  have level : (interval.map t.base.encode).level = interval.level := by
    cases interval <;> rfl
  have low : interval.level ≤ BinaryOp.lt.level := by
    cases interval <;> simp [Interval.level, testLevel, BinaryOp.level]
  have tighter : BinaryOp.lt.level ≤ UnaryOp.neg.level := by decide
  have tightest : BinaryOp.lt.level ≤ Expr.atomLevel := by decide
  simp only [Term.within, Expr.leftLevel, Expr.rightLevel, level, left]
  exact ⟨Nat.min_eq_right (by omega), Nat.min_eq_right (by omega)⟩

theorem takesItem_of_typed (typed : x.expr.Typed t) (notBool : t.base ≠ .bool)
    (interval : Interval Value) :
    takesItem x.expr.leftLevel x.expr.rightLevel interval := by
  obtain ⟨left, right⟩ := typed.levels notBool
  have tight : BinaryOp.gtEq.level ≤ x.expr.rightLevel := Nat.le_trans (by decide) right
  rw [left]
  cases interval with
  | closed low high => exact Nat.le_trans (by decide) tight
  | halfOpen low high => exact ⟨tight, by decide⟩
  | _ => exact tight

theorem value_within (typed : x.expr.Typed t) (notBool : t.base ≠ .bool)
    (interval : Interval t.base.Host) (I : Interpretation) :
    ∃ v, x.expr.value? I = some v ∧
      (x.within interval).expr.value? I = some (v.liesIn (interval.map t.base.encode)).value := by
  obtain ⟨s, reads⟩ := typed.plain.reads
  have takes := takesItem_of_typed typed notBool (interval.map t.base.encode)
  have whole := (reads.within _ takes).value? (.within _ typed.plain) I
  rw [Tree.value_test] at whole
  exact ⟨s.value I, reads.value? typed.plain I, whole⟩

/-- Behind AND every range test has its value, a half-open one since AND is associative. -/
theorem standsBehind_and (typed : x.expr.Typed t) (notBool : t.base ≠ .bool)
    (interval : Interval t.base.Host) :
    (x.within interval).expr.StandsBehind .and := by
  obtain ⟨left, _⟩ := levels_within typed notBool interval
  cases interval with
  | halfOpen low high => exact .inr ⟨rfl, _, _, _, rfl, takesItem_of_typed typed notBool _⟩
  | _ =>
    refine .inl ?_
    rw [left]
    simp [Connective.op, Interval.level, testLevel, BinaryOp.level]

end Items

/-- Exactly some uses of a range test keep its grouping: for every number, every interval
of the form and every row, the text of the outer expression has the value of the
operation on the truth value of the test. -/
theorem range_test_keeps_value_iff (form : Interval Unit) (kind : Use.Kind) :
    (∀ {t : SqlType} (x : Term t) (interval : Interval t.base.Host) (use : Use t.predicate)
      (I : Interpretation), t.base.isInteger = true → x.expr.Typed t →
      interval.form = form → use.kind = kind → use.Fits →
      ∃ v w, x.expr.value? I = some v ∧
        use.value I (v.liesIn (interval.map t.base.encode)).value = some w ∧
        (use.expr (x.within interval) (Expr.base_predicate t)).value? I = some w) ↔
      kind = .operand .and ∨ kind.Keeps form.level form.level := by
  constructor
  · intro kept
    refine (keeps_or_sample form kind).resolve_right ?_
    rintro ⟨s, _, differs⟩
    have typed : RangeSample.item.expr.Typed (.nullable .int64) := .column "n"
    have fits := Use.Kind.fits_use s.other kind
    obtain ⟨v, w, item, expected, outer⟩ :=
      kept RangeSample.item (form.bounded s.low s.high) (kind.use s.other)
      (.uniform s.stored) rfl typed (form.form_bounded _ _) (Use.Kind.kind_use _ _) fits
    rw [RangeSample.item, Term.column, Expr.value?_column] at item
    obtain rfl := Option.some.inj item
    have plain : ((kind.use s.other).expr (s.test form) (SqlType.base_nullable .bool)).Plain :=
      Use.plain_expr rfl (.within _ typed.plain) fits
    exact differs ((plain.value?_eq _).symm.trans (outer.trans expected.symm))
  · rintro keeps t x interval use I integer typed rfl rfl fits
    have notBool : t.base ≠ .bool := by
      intro bool
      rw [bool] at integer
      cases integer
    obtain ⟨v, item, test⟩ := value_within typed notBool interval I
    obtain ⟨left, right⟩ := levels_within typed notBool interval
    have admits : use.Admits (x.within interval).expr := by
      rcases keeps with behind | keeps
      · cases use with
        | operand c =>
          obtain rfl := Use.Kind.operand.inj behind
          exact standsBehind_and typed notBool interval
        | _ => cases behind
      · refine Use.Kind.Keeps.admits ?_
        rw [left, right]
        cases interval <;> exact keeps
    obtain ⟨w, operation, outer⟩ :=
      Use.value_expr (Expr.base_predicate t) (.within _ typed.plain) (by simp)
      test fits admits
    exact ⟨v, w, item, operation, outer⟩

/-- For `n = 0` the test `1 ≤ n < 5` is false, and so equal to false. The text compares
only its upper bound with false. -/
theorem half_open_test_splits_at_equality :
    let test := (Term.column (.required .int64) "n").within (.halfOpen (1 : Int64) (5 : Int64))
    let use : Use (.required .bool) := .receiver .eq (.value false)
    let I := Interpretation.uniform (.int 0)
    use.value I ((Value.int 0).liesIn (.halfOpen (.int 1) (.int 5))).value = some (.int 1) ∧
      (use.expr test rfl).value? I = some (.int 0) := by
  decide +kernel

end TypedSql
