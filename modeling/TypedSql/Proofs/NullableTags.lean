import TypedSql.Expr.Term
import TypedSql.Proofs.Reading.Presence

/-! Whether the type of an expression tells that it cannot be NULL. The result of an
operation has the type of its receiver, or is nullable where the receiver is, whatever the
operand. So a required type can be trusted as long as no operand may be NULL where its
receiver may not, and no operation can be trusted beyond that. -/
namespace TypedSql

open Reading

/-- The operations of a term on an operand that have a value wherever both sides have one. -/
inductive Operation where
  | eq | notEq | lt | ltEq | gt | gtEq
  | concat | and | or | add | sub | mul
  | shiftLeft | shiftRight | bitAnd | bitOr | bitXor
  deriving DecidableEq

namespace Operation

/-- The base types that an operation is there for. -/
def takes : Operation → BaseType → Bool
  | concat, base => base = .text
  | and, base | or, base => base = .bool
  | add, base | sub, base | mul, base => base.isNumeric
  | shiftLeft, base | shiftRight, base | bitAnd, base | bitOr, base | bitXor, base => base.isInteger
  | _, _ => true

/-- The type of the result on a receiver of a type. -/
def result : Operation → SqlType → SqlType
  | eq, t | notEq, t | lt, t | ltEq, t | gt, t | gtEq, t => t.predicate
  | _, t => t

def apply (op : Operation) (x : Term t) (rhs : Operand t) (takes : op.takes t.base = true) :
    Term (op.result t) :=
  match op with
  | eq => x.eq rhs
  | notEq => x.notEq rhs
  | lt => x.lt rhs
  | ltEq => x.ltEq rhs
  | gt => x.gt rhs
  | gtEq => x.gtEq rhs
  | concat => x.concat rhs (of_decide_eq_true takes)
  | and => x.and rhs (of_decide_eq_true takes)
  | or => x.or rhs (of_decide_eq_true takes)
  | add => x.add rhs takes
  | sub => x.sub rhs takes
  | mul => x.mul rhs takes
  | shiftLeft => x.shiftLeft rhs takes
  | shiftRight => x.shiftRight rhs takes
  | bitAnd => x.bitAnd rhs takes
  | bitOr => x.bitOr rhs takes
  | bitXor => x.bitXor rhs takes

/-- Equality and inequality with NULL are tests for it. -/
def testsNull (op : Operation) : Bool :=
  op = eq || op = notEq

theorem isNullable_result (op : Operation) (t : SqlType) :
    (op.result t).isNullable = t.isNullable := by
  cases op <;> cases t <;> rfl

end Operation

namespace Term

/-- The terms of columns, plain values, tests, ranges and operations in which an operand
may be NULL only where its receiver may, or is NULL itself in a test for it. The columns
of a required type are among the filled ones, and no plain number is a number that is
none, for which a database has NULL. -/
inductive Guarded (filled : Expr → Prop) : {t : SqlType} → Term t → Prop where
  | reference {x : Term t} (plain : x.expr.Plain) (reference : x.expr.isReference = true)
      (holds : t.isNullable = false → filled x.expr) : Guarded filled x
  | value (v : t.base.Host) (number : (t.base.encode v).IsPresent) : Guarded filled (Term.value t v)
  | null (t : SqlType) : Guarded filled (Term.null t)
  | operation {x : Term t} {y : Term u} (op : Operation) (takes : op.takes t.base = true)
      (same : u.base = t.base) (first : Guarded filled x) (second : Guarded filled y)
      (fits : u.isNullable = true → t.isNullable = true ∨ op.testsNull = true ∧ y.expr = .null) :
      Guarded filled (op.apply x (.term y same) takes)
  | isNull {x : Term t} (inner : Guarded filled x) : Guarded filled x.isNull
  | isNotNull {x : Term t} (inner : Guarded filled x) : Guarded filled x.isNotNull
  | inList {x : Term t} (inner : Guarded filled x) (values : List t.base.Host)
      (numbers : ∀ v ∈ values, (t.base.encode v).IsPresent) : Guarded filled (x.inList values)
  | notInList {x : Term t} (inner : Guarded filled x) (values : List t.base.Host)
      (numbers : ∀ v ∈ values, (t.base.encode v).IsPresent) : Guarded filled (x.notInList values)
  | within {x : Term t} (inner : Guarded filled x) (interval : Interval t.base.Host)
      (numbers : ∀ v ∈ interval.bounds, (t.base.encode v).IsPresent) :
      Guarded filled (x.within interval)
  | like {x : Term t} (inner : Guarded filled x) (pattern : String) (text : t.base = .text) :
      Guarded filled (x.like pattern text)
  | neg {x : Term t} (inner : Guarded filled x) (numeric : t.base.isNumeric = true) :
      Guarded filled (x.neg numeric)
  | complement {x : Term t} (inner : Guarded filled x) (invertible : t.base.isInvertible = true) :
      Guarded filled (x.complement invertible)

end Term

/-- An expression has a value in a row, by its text. -/
def Expr.HasValue (I : Interpretation) (e : Expr) : Prop :=
  ∃ v, e.value? I = some v ∧ v.IsPresent

/-- A row in which the filled columns have values. -/
def Interpretation.Fills (I : Interpretation) (filled : Expr → Prop) : Prop :=
  ∀ e, filled e → e.HasValue I

namespace Reading.Preserves
variable {I : Interpretation} {a b : Expr}

theorem reference {e : Expr} (plain : e.Plain) (reference : e.isReference = true)
    (value : e.HasValue I) :
    Preserves I e.tokens := by
  obtain ⟨t, stands⟩ : ∃ t, Stands e.tokens t := by
    cases plain with
    | column name => exact ⟨.column [name], .named [name], rfl, fun _ => rfl⟩
    | qualified table inner plain => exact stands_qualified table inner plain
    | rowid => exact ⟨.rowid [], .tree (.rowid []), rfl, fun _ => rfl⟩
    | _ => cases reference
  obtain ⟨v, found, present⟩ := value
  have reads : e.Reads t := stands.holds _ _
  obtain rfl : t.value I = v := Option.some.inj ((reads.value? plain I).symm.trans found)
  exact .stands stands present

theorem binary (strict : I.Strict) (first : Preserves I a.tokens) (second : Preserves I b.tokens)
    {op : BinaryOp} (notDiv : op ≠ .div) (notRem : op ≠ .rem)
    (single : op.tokens = [.operator op]) :
    Preserves I (Expr.binary op a b).tokens := by
  have grouped := (first.operation strict second notDiv notRem).group strict
  simpa [Expr.tokens, single] using grouped

theorem nullTest_expr (strict : I.Strict) (first : Preserves I a.tokens) {op : BinaryOp}
    (test : op = .is ∨ op = .isNot) : Preserves I (Expr.binary op a .null).tokens := by
  simpa [Expr.tokens] using first.nullTest strict test

/-- Equality, or the test for NULL where the operand is NULL itself. -/
theorem equality (strict : I.Strict) (first : Preserves I a.tokens) (plain : b.Plain)
    (second : b ≠ .null → Preserves I b.tokens) {test op : BinaryOp}
    (isTest : test = .is ∨ test = .isNot) (notDiv : op ≠ .div) (notRem : op ≠ .rem)
    (single : op.tokens = [.operator op]) :
    Preserves I (Expr.binary (if b.fragment.isNullLiteral then test else op) a b).tokens := by
  by_cases null : b = .null
  · rw [if_pos (plain.isNullLiteral_iff.2 null), null]
    exact first.nullTest_expr strict isTest
  · rw [if_neg fun literal => null (plain.isNullLiteral_iff.1 literal)]
    exact first.binary strict (second null) notDiv notRem single

theorem member_expr (strict : I.Strict) (first : Preserves I a.tokens) (negated : Bool)
    {values : List Value}
    (each : ∀ v ∈ values, v.IsPresent) : Preserves I (Expr.member negated a values).tokens := by
  have grouped := (first.member strict negated each).group strict
  simpa [Expr.tokens] using grouped

end Reading.Preserves

namespace Term.Guarded
variable {filled : Expr → Prop} {I : Interpretation} {t u : SqlType} {x : Term t}

theorem plain (guarded : Guarded filled x) : x.expr.Plain := by
  induction guarded with
  | reference plain _ _ => exact plain
  | value v _ => exact .bound _
  | null _ => exact .null
  | operation op _ _ _ _ _ first second =>
    cases op with
    | bitXor => exact .binary _ (.unary _ (.binary _ first second)) (.binary _ first second)
    | _ => exact .binary _ first second
  | isNull _ ih | isNotNull _ ih => exact .binary _ ih .null
  | inList _ values _ ih | notInList _ values _ ih => exact .member _ _ ih
  | within _ interval _ ih => exact .within _ ih
  | like _ pattern _ ih => exact .binary _ ih (.bound _)
  | neg _ _ ih | complement _ _ ih => exact .unary _ ih

theorem isNullable_predicate (t : SqlType) : t.predicate.isNullable = t.isNullable := by
  cases t <;> rfl

/-- In a guarded term of a required type, all that is read has a value. -/
theorem preserves (strict : I.Strict) (fills : I.Fills filled) (guarded : Guarded filled x)
    (required : t.isNullable = false) : Preserves I x.expr.tokens := by
  induction guarded with
  | reference plain reference holds => exact .reference plain reference (fills _ (holds required))
  | value v number => exact .bound number
  | null _ => cases required
  | @operation t u x y op takes same _ guarded fits first second =>
    rw [op.isNullable_result] at required
    have left := first required
    have right (notNull : op.testsNull = false ∨ y.expr ≠ .null) : Preserves I y.expr.tokens := by
      refine second (Bool.eq_false_iff.2 fun nullable => ?_)
      rcases fits nullable with receiver | ⟨test, null⟩
      · rw [required] at receiver
        cases receiver
      · rcases notNull with notTest | notNull
        · rw [test] at notTest
          cases notTest
        · exact notNull null
    cases op with
    | eq =>
      have operand (notNull : y.expr ≠ .null) := right (.inr notNull)
      exact left.equality strict guarded.plain operand (.inl rfl) (by simp) (by simp) rfl
    | notEq =>
      have operand (notNull : y.expr ≠ .null) := right (.inr notNull)
      exact left.equality strict guarded.plain operand (.inr rfl) (by simp) (by simp) rfl
    | bitXor =>
      have operand := right (.inl rfl)
      have both : Preserves I (Expr.binary .bitAnd x.expr y.expr).tokens :=
        left.binary strict operand (by simp) (by simp) rfl
      have either : Preserves I (Expr.binary .bitOr x.expr y.expr).tokens :=
        left.binary strict operand (by simp) (by simp) rfl
      have neither : Preserves I (Expr.unary .bitNot (.binary .bitAnd x.expr y.expr)).tokens :=
        both.unary strict .bitNot
      exact neither.binary strict either (by simp) (by simp) rfl
    | _ => exact left.binary strict (right (.inl rfl)) (by simp) (by simp) rfl
  | isNull _ ih =>
    rw [isNullable_predicate] at required
    exact (ih required).nullTest_expr strict (.inl rfl)
  | isNotNull _ ih =>
    rw [isNullable_predicate] at required
    exact (ih required).nullTest_expr strict (.inr rfl)
  | inList _ values numbers ih =>
    rw [isNullable_predicate] at required
    exact (ih required).member_expr strict false (List.forall_mem_map.2 numbers)
  | notInList _ values numbers ih =>
    rw [isNullable_predicate] at required
    exact (ih required).member_expr strict true (List.forall_mem_map.2 numbers)
  | within _ interval numbers ih =>
    rw [isNullable_predicate] at required
    refine (ih required).interval strict ?_
    cases interval <;> simpa [Interval.bounds, Interval.map] using numbers
  | like _ pattern _ ih =>
    rw [isNullable_predicate] at required
    have text : Value.IsPresent (.text pattern) := by simp [Value.IsPresent, Database.storable]
    exact (ih required).binary strict (.bound text) (by simp) (by simp) rfl
  | neg _ _ ih => exact (ih required).unary strict .neg
  | complement _ _ ih => exact (ih required).unary strict _

theorem hasValue (strict : I.Strict) (fills : I.Fills filled) (guarded : Guarded filled x)
    (required : t.isNullable = false) : x.expr.HasValue I := by
  obtain ⟨tree, reads⟩ := guarded.plain.reads
  have present :=
    (guarded.preserves strict fills required).read strict (reads.read x.expr.rightLevel_pos)
  exact ⟨tree.value I, reads.value? guarded.plain I, present⟩

end Term.Guarded

/-- A row in which every column but one holds NULL. Whatever is computed is zero. -/
def Interpretation.single (name : String) (v : Value) : Interpretation where
  column path := if path = [name] then v else .null
  rowid _ := .null
  counts _ := false
  binary _ _ _ := .int 0
  unary _ _ := .int 0
  cast _ a := a
  call _ _ := .null
  aggregate _ _ _ := .null
  countAll := .null

theorem Interpretation.strict_single (name : String) (v : Value) : (single name v).Strict := by
  constructor <;> intros <;> simp [single, Value.IsPresent, Database.storable]

theorem Interpretation.fills_single {name : String} {v : Value} (present : v.IsPresent) :
    (single name v).Fills (· = .column name) := by
  rintro _ rfl
  exact ⟨v, by simp [Expr.value?_column, single], present⟩

namespace Operation
variable (op : Operation)

/-- A value that leaves the result open: neither false before AND nor true before OR. -/
def sample : Value :=
  .int (if op = or then 0 else 1)

theorem isPresent_sample : op.sample.IsPresent := by
  simp [sample, Value.IsPresent, Database.storable]

/-- Beside NULL an operator gives NULL, unless it is a test for NULL or already decided. -/
theorem operate_sample_null {o : BinaryOp} (notIs : o ≠ .is) (notIsNot : o ≠ .isNot)
    (undecided : o = .and → op.sample = .int 1) (undecided' : o = .or → op.sample = .int 0)
    (I : Interpretation) : I.operate o op.sample .null = .null := by
  cases o with
  | is => exact absurd rfl notIs
  | isNot => exact absurd rfl notIsNot
  | and => rw [undecided rfl]; rfl
  | or => rw [undecided' rfl]; rfl
  | _ =>
    simp [Interpretation.operate, BinaryOp.comparison?, Value.compare, Value.isNull, Truth.value]

theorem reads_columns {o : BinaryOp} (notIs : o ≠ .is) :
    (Expr.binary o (.column "a") (.column "b")).Reads
      (.binary o (.column ["a"]) (.column ["b"])) := by
  have level : o.level < Expr.atomLevel := by
    cases o <;> simp [BinaryOp.level, Expr.atomLevel]
  exact (Expr.reads_column "a").binary (Expr.reads_column "b") o notIs (Nat.le_of_lt level) level

theorem plain_columns (o : BinaryOp) : (Expr.binary o (.column "a") (.column "b")).Plain :=
  .binary o (.column "a") (.column "b")

theorem value?_beside_null {t u : SqlType} (takes : op.takes t.base = true)
    (same : u.base = t.base) :
    (op.apply (.column t "a") (.term (.column u "b") same) takes).expr.value?
      (.single "a" op.sample) =
      some .null := by
  have value (o : BinaryOp) (notIs : o ≠ .is) (notIsNot : o ≠ .isNot)
      (undecided : o = .and → op.sample = .int 1) (undecided' : o = .or → op.sample = .int 0) :
      (Expr.binary o (.column "a") (.column "b")).value? (.single "a" op.sample) = some .null := by
    rw [(reads_columns notIs).value? (plain_columns o)]
    exact congrArg some (op.operate_sample_null notIs notIsNot undecided undecided' _)
  have notNull : (Expr.column "b").fragment.isNullLiteral = false := by decide
  cases op with
  | eq | notEq =>
    simp only [apply, Term.eq, Term.notEq, Operand.term, Term.column, notNull]
    exact value _ (by simp) (by simp) (by simp) (by simp)
  | bitXor =>
    have either : (Expr.binary .bitOr (.column "a") (.column "b")).Reads _ :=
      reads_columns (by simp)
    have neither : (Expr.unary .bitNot (.binary .bitAnd (.column "a") (.column "b"))).Reads _ :=
      (reads_columns (by simp)).unary .bitNot
    have whole := neither.binary either .bitAnd (by simp) (by decide) (by decide)
    exact whole.value? (.binary _ (.unary _ (plain_columns _)) (plain_columns _)) _
  | _ => exact value _ (by simp) (by simp) (by simp [sample]) (by simp [sample])

end Operation

open Term (Guarded)

/-- A required type tells that an expression is not NULL as long as every operand is
required where its receiver is: then every expression of columns, plain values, tests,
ranges and operations that has the type has a value in every row in which its required
columns have values. And no operation on the type keeps this beside a nullable operand. -/
theorem required_result_has_value_iff {t : SqlType} (required : t.isNullable = false) :
    (∀ (filled : Expr → Prop) (I : Interpretation), I.Strict → I.Fills filled →
      ∀ x : Term t, Guarded filled x → x.expr.HasValue I) ∧
    ∀ (op : Operation) {u : SqlType} (takes : op.takes t.base = true) (same : u.base = t.base),
      ((∀ (filled : Expr → Prop) (I : Interpretation), I.Strict → I.Fills filled →
        ∀ (x : Term t) (y : Term u), Guarded filled x → Guarded filled y →
          (op.apply x (.term y same) takes).expr.HasValue I) ↔ u.isNullable = false) := by
  refine ⟨fun filled I strict fills x guarded => guarded.hasValue strict fills required, ?_⟩
  intro op u takes same
  constructor
  · intro sound
    by_contra nullable
    have a : Guarded (· = .column "a") (Term.column t "a") :=
      .reference (.column "a") rfl fun _ => rfl
    have b : Guarded (· = .column "a") (Term.column u "b") :=
      .reference (.column "b") rfl fun required => absurd required nullable
    obtain ⟨v, value, present⟩ := sound _ (.single "a" op.sample) (Interpretation.strict_single ..)
      (Interpretation.fills_single op.isPresent_sample) _ _ a b
    rw [op.value?_beside_null] at value
    obtain rfl := Option.some.inj value
    exact present rfl
  · intro operand filled I strict fills x y first second
    have guarded : Guarded filled (op.apply x (.term y same) takes) :=
      .operation op takes same first second fun nullable => by simp [operand] at nullable
    exact guarded.hasValue strict fills (by rw [op.isNullable_result, required])

/-- A half-open range, a test for NULL and an equality, taken together. -/
theorem required_result_has_value_iff_filled_column :
    let n := Term.column (.required .int64) "n"
    let tests := ((n.within (.halfOpen (1 : Int64) (5 : Int64))).and (.term n.isNotNull rfl)).or
      (.term (n.eq (.value (7 : Int64))) rfl)
    Guarded (· = .column "n") tests ∧ tests.expr.HasValue (.single "n" (.int 3)) := by
  intro n tests
  have column : Guarded (· = .column "n") n := .reference (.column "n") rfl fun _ => rfl
  have whole (k : Int64) : (BaseType.encode .int64 k).IsPresent := by
    simp [BaseType.encode, Value.IsPresent, Database.storable]
  have range := column.within (.halfOpen (1 : Int64) (5 : Int64)) fun k _ => whole k
  have seven : Guarded (· = .column "n") (Term.value (.required .int64) (7 : Int64)) :=
    .value _ (whole 7)
  have both := Guarded.operation .and rfl rfl range column.isNotNull fun nullable => by
    cases nullable
  have equality := Guarded.operation .eq rfl rfl column seven fun nullable => by cases nullable
  have guarded : Guarded (· = .column "n") tests :=
    Guarded.operation .or rfl rfl both equality fun nullable => by cases nullable
  have fills : (Interpretation.single "n" (.int 3)).Fills (· = .column "n") :=
    Interpretation.fills_single (whole 3)
  exact ⟨guarded,
    (required_result_has_value_iff rfl).1 _ _ (Interpretation.strict_single ..) fills tests guarded⟩

/-- A comparison of a required column with a nullable one has a required type. Where the
nullable column is NULL so is the comparison, and reading it fails. -/
theorem required_comparison_is_null :
    let a := Term.column (.required .int64) "a"
    let b := Term.column (.nullable .int64) "b"
    let test : Term (.required .bool) := a.eq (.term b rfl)
    let row := Interpretation.single "a" (.int 1)
    a.expr.value? row = some (.int 1) ∧ b.expr.value? row = some .null ∧
      test.expr.value? row = some .null ∧
      (SqlType.required .bool).ofOption test.template (BaseType.decode .bool .null) =
        .error (.unexpectedNull test.template) := by
  intro a b test row
  exact ⟨Expr.value?_column "a" row, Expr.value?_column "b" row,
    Operation.value?_beside_null .eq rfl rfl, rfl⟩

end TypedSql
