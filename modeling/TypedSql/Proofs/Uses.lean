import TypedSql.Proofs.Typing

namespace TypedSql

open Reading

theorem SqlType.base_nullable (base : BaseType) : (nullable base).base = base :=
  rfl

theorem BaseType.isInvertible_of_bool {base : BaseType} (truth : base = .bool) :
    base.isInvertible = true := by
  rw [truth]
  rfl

/-- The form of an interval, without its bounds. -/
def Interval.form (interval : Interval α) : Interval Unit :=
  interval.map fun _ => ()

/-- The interval of a form with some bounds. -/
def Interval.bounded (low high : α) : Interval Unit → Interval α
  | closed _ _ => .closed low high
  | halfOpen _ _ => .halfOpen low high
  | atMost _ => .atMost high
  | below _ => .below high
  | atLeast _ => .atLeast low

def Interval.forms : List (Interval Unit) :=
  [.closed () (), .halfOpen () (), .atMost (), .below (), .atLeast ()]

theorem Interval.mem_forms (form : Interval Unit) : form ∈ forms := by
  cases form <;> simp [forms]

theorem Interval.form_bounded (form : Interval Unit) (low high : α) :
    (form.bounded low high).form = form := by
  cases form <;> rfl

/-- The operations on two truth values. -/
inductive Connective where
  | and | or | eq | notEq | lt | ltEq | gt | gtEq
  deriving DecidableEq

namespace Connective

def all : List Connective :=
  [and, or, eq, notEq, lt, ltEq, gt, gtEq]

theorem mem_all (c : Connective) : c ∈ all := by
  cases c <;> decide

def op : Connective → BinaryOp
  | and => .and
  | or => .or
  | eq => .eq
  | notEq => .notEq
  | lt => .lt
  | ltEq => .ltEq
  | gt => .gt
  | gtEq => .gtEq

def expr (c : Connective) (x : Term t) (truth : t.base = .bool) (rhs : Operand t) : Expr :=
  match c with
  | and => (x.and rhs truth).expr
  | or => (x.or rhs truth).expr
  | eq => (x.eq rhs).expr
  | notEq => (x.notEq rhs).expr
  | lt => (x.lt rhs).expr
  | ltEq => (x.ltEq rhs).expr
  | gt => (x.gt rhs).expr
  | gtEq => (x.gtEq rhs).expr

/-- The operator before an operand: equality with NULL is the test for it. -/
def operator (c : Connective) (rhs : Expr) : BinaryOp :=
  match c with
  | eq => if rhs.fragment.isNullLiteral then .is else .eq
  | notEq => if rhs.fragment.isNullLiteral then .isNot else .notEq
  | c => c.op

theorem expr_eq (c : Connective) (x : Term t) (truth : t.base = .bool) (rhs : Operand t) :
    c.expr x truth rhs = .binary (c.operator rhs.expr) x.expr rhs.expr := by
  cases c <;> rfl

theorem level_operator (c : Connective) (rhs : Expr) : (c.operator rhs).level = c.op.level := by
  cases c <;> simp only [operator] <;> split <;> rfl

end Connective

/-- An expression holds behind a connective. A half-open test behind AND does not, but
its value is the same, since AND is associative. -/
def Expr.StandsBehind (c : Connective) (e : Expr) : Prop :=
  c.op.level < e.leftLevel ∨
    c = .and ∧ ∃ item low high, e = .within item (.halfOpen low high) ∧
      takesItem item.leftLevel item.rightLevel (.halfOpen low high)

namespace Connective
variable {t : SqlType} (c : Connective)

theorem operator_of_ne_null {rhs : Expr} (plain : rhs.Plain) (notNull : rhs ≠ .null) :
    c.operator rhs = c.op := by
  have literal : rhs.fragment.isNullLiteral = false :=
    Bool.eq_false_iff.2 fun null => notNull (plain.isNullLiteral_iff.1 null)
  cases c <;> simp only [operator, literal] <;> rfl

theorem value_expr {x : Term t} {rhs : Operand t} (truth : t.base = .bool) {I : Interpretation}
    {v w : Value} (left : x.expr.Plain) (first : x.expr.value? I = some v) (right : rhs.expr.Plain)
    (second : rhs.expr.value? I = some w) (before : c.op.level ≤ x.expr.rightLevel)
    (behind : rhs.expr.StandsBehind c) :
    (c.expr x truth rhs).value? I = some (I.operate (c.operator rhs.expr) v w) := by
  obtain ⟨t', reads⟩ := left.reads
  obtain rfl : t'.value I = v := Option.some.inj ((reads.value? left I).symm.trans first)
  rw [← c.level_operator rhs.expr] at before
  rw [expr_eq]
  by_cases null : rhs.expr = .null
  · obtain rfl : w = .null := by
      rw [null] at second
      exact (Option.some.inj second).symm
    rw [null] at before ⊢
    exact (reads.binary_null _ before).value? (.binary _ left .null) I
  rw [c.operator_of_ne_null right null] at before ⊢
  rcases behind with tighter | ⟨rfl, item, low, high, shape, takes⟩
  · obtain ⟨u, reads'⟩ := right.reads
    obtain rfl : u.value I = w := Option.some.inj ((reads'.value? right I).symm.trans second)
    have notIs : c.op ≠ .is := by cases c <;> simp [op]
    exact (reads.binary reads' c.op notIs before tighter).value? (.binary _ left right) I
  · -- the text is taken as `(x AND lower) AND upper`
    rw [shape] at right second ⊢
    cases right with
    | within _ inner =>
      obtain ⟨u, reads'⟩ := inner.reads
      have test := ((reads'.within _ takes).value? (.within _ inner) I).symm.trans second
      have whole :=
        (reads.and_halfOpen reads' before takes).value? (.binary _ left (.within _ inner)) I
      rw [Tree.value, Tree.value, I.operate_and_assoc] at whole
      rw [← Option.some.inj test]
      exact whole

end Connective

/-- A use of a truth value. -/
inductive Use (t : SqlType) where
  | receiver (c : Connective) (rhs : Operand t)
  | operand (c : Connective) (left : Term u) (same : t.base = u.base)
  | isNull
  | isNotNull
  | inList (values : List t.base.Host)
  | notInList (values : List t.base.Host)
  | within (interval : Interval t.base.Host)
  | complement
  | cast (target : SqlType)

namespace Use

/-- A use without the values and expressions beside the truth value. -/
inductive Kind where
  | receiver (c : Connective)
  | operand (c : Connective)
  | isNull
  | isNotNull
  | inList
  | notInList
  | within (form : Interval Unit)
  | complement
  | cast
  deriving DecidableEq

def Kind.all : List Kind :=
  Connective.all.map receiver ++ Connective.all.map operand ++ Interval.forms.map within ++
    [isNull, isNotNull, inList, notInList, complement, cast]

theorem Kind.mem_all (kind : Kind) : kind ∈ all := by
  cases kind <;> simp [all, Connective.mem_all, Interval.mem_forms]

section
variable {t : SqlType}

def kind : Use t → Kind
  | receiver c _ => .receiver c
  | operand c _ _ => .operand c
  | isNull => .isNull
  | isNotNull => .isNotNull
  | inList _ => .inList
  | notInList _ => .notInList
  | within interval => .within interval.form
  | complement => .complement
  | cast _ => .cast

/-- The outer expression. -/
def expr (use : Use t) (p : Term t) (truth : t.base = .bool) : Expr :=
  match use with
  | receiver c rhs => c.expr p truth rhs
  | operand c left same => c.expr left (same.symm.trans truth) (.term p same)
  | isNull => p.isNull.expr
  | isNotNull => p.isNotNull.expr
  | inList values => (p.inList values).expr
  | notInList values => (p.notInList values).expr
  | within interval => (p.within interval).expr
  | complement => (p.complement (BaseType.isInvertible_of_bool truth)).expr
  | cast target => (p.cast target).expr

/-- The operation on a value. -/
def value (I : Interpretation) (use : Use t) (v : Value) : Option Value :=
  match use with
  | receiver c rhs => (rhs.expr.value? I).map fun w => I.operate (c.operator rhs.expr) v w
  | operand c left _ => (left.expr.value? I).map fun w => I.operate c.op w v
  | isNull => some (I.operate .is v .null)
  | isNotNull => some (I.operate .isNot v .null)
  | inList values => some (v.membership false (values.map t.base.encode))
  | notInList values => some (v.membership true (values.map t.base.encode))
  | within interval => some (v.liesIn (interval.map t.base.encode)).value
  | complement => some (I.apply .not v)
  | cast target => some (I.convert target.base.declared v)

/-- The other operand is typed and holds on its own side. -/
def Fits : Use t → Prop
  | receiver c rhs => ∃ u : SqlType, u.base = t.base ∧ rhs.expr.Typed u ∧ rhs.expr.StandsBehind c
  | @operand _ u c left _ => left.expr.Typed u ∧ c.op.level ≤ left.expr.rightLevel
  | _ => True

/-- An expression holds against the operator that it stands at. -/
def Admits (use : Use t) (p : Expr) : Prop :=
  match use with
  | receiver c _ => c.op.level ≤ p.rightLevel
  | operand c _ _ => p.StandsBehind c
  | isNull | isNotNull | inList _ | notInList _ => testLevel ≤ p.rightLevel
  | within interval => takesItem p.leftLevel p.rightLevel interval
  | complement | cast _ => True

/-- What holds between two levels holds against the operators of a kind of use. -/
def Kind.Keeps (left right : Nat) : Kind → Prop
  | receiver c => c.op.level ≤ right
  | operand c => c.op.level < left
  | isNull | isNotNull | inList | notInList => testLevel ≤ right
  | within form => takesItem left right form
  | complement | cast => True

instance (left right : Nat) (kind : Kind) : Decidable (kind.Keeps left right) := by
  cases kind with
  | within form => cases form <;> unfold Kind.Keeps takesItem <;> infer_instance
  | _ => unfold Kind.Keeps; infer_instance

theorem Kind.Keeps.admits {use : Use t} {p : Expr}
    (keeps : use.kind.Keeps p.leftLevel p.rightLevel) :
    use.Admits p := by
  cases use with
  | operand c => exact .inl keeps
  | within interval => cases interval <;> exact keeps
  | _ => exact keeps

theorem value_expr {use : Use t} {p : Term t} {I : Interpretation} {v : Value}
    (truth : t.base = .bool)
    (plain : p.expr.Plain) (notNull : p.expr ≠ .null) (value : p.expr.value? I = some v)
    (fits : use.Fits)
    (admits : use.Admits p.expr) :
    ∃ w, use.value I v = some w ∧ (use.expr p truth).value? I = some w := by
  obtain ⟨s, reads⟩ := plain.reads
  obtain rfl : s.value I = v := Option.some.inj ((reads.value? plain I).symm.trans value)
  have among (before : testLevel ≤ p.expr.rightLevel) (negated : Bool) (values : List Value) :
      (Expr.member negated p.expr values).value? I =
        some ((s.value I).membership negated values) := by
    have whole := (reads.member before negated values).value? (.member _ _ plain) I
    rwa [Tree.value, Tree.values_map_bound] at whole
  cases use with
  | receiver c rhs =>
    obtain ⟨u, _, typed, behind⟩ := fits
    obtain ⟨w, right⟩ := typed.plain.exists_value I
    refine ⟨_, by rw [Use.value, right]; rfl, ?_⟩
    exact Connective.value_expr c truth plain value typed.plain right admits behind
  | operand c left same =>
    obtain ⟨typed, before⟩ := fits
    obtain ⟨w, left'⟩ := typed.plain.exists_value I
    refine ⟨_, by rw [Use.value, left']; rfl, ?_⟩
    have whole : (c.expr left (same.symm.trans truth) (.term p same)).value? I =
        some (I.operate (c.operator p.expr) w (s.value I)) :=
      Connective.value_expr c _ typed.plain left' plain value before admits
    rwa [c.operator_of_ne_null plain notNull] at whole
  | isNull => exact ⟨_, rfl, (reads.binary_null .is admits).value? (.binary _ plain .null) I⟩
  | isNotNull => exact ⟨_, rfl, (reads.binary_null .isNot admits).value? (.binary _ plain .null) I⟩
  | inList values => exact ⟨_, rfl, among admits false _⟩
  | notInList values => exact ⟨_, rfl, among admits true _⟩
  | within interval =>
    refine ⟨_, rfl, ?_⟩
    have takes : takesItem p.expr.leftLevel p.expr.rightLevel (interval.map t.base.encode) := by
      cases interval <;> exact admits
    have whole := (reads.within _ takes).value? (.within _ plain) I
    rwa [Tree.value_test] at whole
  | complement =>
    refine ⟨_, rfl, ?_⟩
    have whole := (reads.unary .not).value? (.unary _ plain) I
    simpa [Use.expr, Term.complement, truth, Tree.value] using whole
  | cast target => exact ⟨_, rfl, (reads.cast _).value? (.cast _ plain) I⟩

theorem plain_expr {use : Use t} {p : Term t} (truth : t.base = .bool) (plain : p.expr.Plain)
    (fits : use.Fits) :
    (use.expr p truth).Plain := by
  cases use with
  | receiver c rhs =>
    obtain ⟨u, _, typed, _⟩ := fits
    rw [expr, c.expr_eq]
    exact .binary _ plain typed.plain
  | operand c left same =>
    rw [expr, c.expr_eq]
    exact .binary _ fits.1.plain plain
  | isNull | isNotNull => exact .binary _ plain .null
  | inList | notInList => exact .member _ _ plain
  | within => exact .within _ plain
  | complement => exact .unary _ plain
  | cast => exact .cast _ plain

end

/-- A truth value or NULL. -/
def beside : Option Bool → Term (.nullable .bool)
  | some truth => .value _ truth
  | none => .null (.nullable .bool)

/-- A use of each kind beside a truth value or NULL. -/
def Kind.use (other : Option Bool) : Kind → Use (.nullable .bool)
  | receiver c => .receiver c (.term (beside other) rfl)
  | operand c => .operand c (beside other) rfl
  | isNull => .isNull
  | isNotNull => .isNotNull
  | inList => .inList other.toList
  | notInList => .notInList other.toList
  | within form => .within (form.bounded false (other.getD true))
  | complement => .complement
  | cast => .cast (.required .int64)

theorem Kind.kind_use (other : Option Bool) (kind : Kind) : (kind.use other).kind = kind := by
  cases kind with
  | within form => exact congrArg Kind.within (form.form_bounded _ _)
  | _ => rfl

theorem Kind.fits_use (other : Option Bool) (kind : Kind) : (kind.use other).Fits := by
  have typed : (beside other).expr.Typed (.nullable .bool) := by
    cases other with
    | none => exact .null
    | some truth => exact .bound _
  have levels : (beside other).expr.leftLevel = Expr.atomLevel ∧
      (beside other).expr.rightLevel = Expr.atomLevel := by
    cases other <;> exact ⟨rfl, rfl⟩
  have level (c : Connective) : c.op.level < Expr.atomLevel := by
    cases c <;> decide
  cases kind with
  | receiver c => exact ⟨_, rfl, typed, .inl (levels.1.symm ▸ level c)⟩
  | operand c => exact ⟨typed, levels.2.symm ▸ Nat.le_of_lt (level c)⟩
  | _ => trivial

end Use

end TypedSql
