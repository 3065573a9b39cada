import TypedSql.Proofs.Typing
import TypedSql.Proofs.Writing

namespace TypedSql

open Reading

/-- What is in either number and not in both is in exactly one. -/
theorem complement_and_or (m n : Int64) : ~~~(m &&& n) &&& (m ||| n) = m ^^^ n := by
  rw [← Int64.toBitVec_inj]
  simp only [Int64.toBitVec_and, Int64.toBitVec_not, Int64.toBitVec_or, Int64.toBitVec_xor]
  ext i bound
  simp only [BitVec.getElem_and, BitVec.getElem_not, BitVec.getElem_or, BitVec.getElem_xor]
  cases m.toBitVec[i] <;> cases n.toBitVec[i] <;> rfl

/-- The bitwise operators take each value for an integer, an integer for itself, and work on the
64 bits of its two's complement. -/
structure Interpretation.Bitwise (I : Interpretation) (integer : Value → Int64) : Prop where
  integer_int : ∀ n, integer (.int n) = n
  bitAnd : ∀ v w, v.isNull = false → w.isNull = false →
    I.binary .bitAnd v w = .int (integer v &&& integer w)
  bitOr : ∀ v w, v.isNull = false → w.isNull = false →
    I.binary .bitOr v w = .int (integer v ||| integer w)
  bitNot : ∀ v, v.isNull = false → I.unary .bitNot v = .int (~~~integer v)

/-- The exclusive or of two values, NULL beside NULL. -/
def Value.exclusiveOr (integer : Value → Int64) (v w : Value) : Value :=
  if v.isNull || w.isNull then .null else .int (integer v ^^^ integer w)

/-- An exclusive or with its grouping. -/
def Tree.exclusiveOr (t u : Tree) : Tree :=
  .binary .bitAnd (.unary .bitNot (.binary .bitAnd t u)) (.binary .bitOr t u)

namespace Interpretation.Bitwise
variable {I : Interpretation} {integer : Value → Int64} (bitwise : I.Bitwise integer) {v w : Value}
include bitwise

theorem operate_bitAnd (first : v.isNull = false) (second : w.isNull = false) :
    I.operate .bitAnd v w = .int (integer v &&& integer w) := by
  simp only [operate, BinaryOp.comparison?, first, second, Bool.or_self, Bool.false_eq_true,
    ↓reduceIte, bitwise.bitAnd v w first second]

theorem operate_bitOr (first : v.isNull = false) (second : w.isNull = false) :
    I.operate .bitOr v w = .int (integer v ||| integer w) := by
  simp only [operate, BinaryOp.comparison?, first, second, Bool.or_self, Bool.false_eq_true,
    ↓reduceIte, bitwise.bitOr v w first second]

theorem value_exclusiveOr (t u : Tree) :
    (t.exclusiveOr u).value I = (t.value I).exclusiveOr integer (u.value I) := by
  have isNull_int (n : Int64) : (Value.int n).isNull = false := rfl
  simp only [Tree.exclusiveOr, Tree.value]
  by_cases missing : ((t.value I).isNull || (u.value I).isNull) = true
  · have both : I.operate .bitAnd (t.value I) (u.value I) = .null := by
      simp only [operate, BinaryOp.comparison?, missing, ↓reduceIte]
    rw [both, Value.exclusiveOr, if_pos missing]
    rfl
  · obtain ⟨first, second⟩ : (t.value I).isNull = false ∧ (u.value I).isNull = false := by
      simpa using missing
    have complement (n : Int64) : I.apply .bitNot (.int n) = .int (~~~n) := by
      rw [← bitwise.integer_int n, ← bitwise.bitNot _ (isNull_int n), bitwise.integer_int n]
      rfl
    rw [bitwise.operate_bitAnd first second, bitwise.operate_bitOr first second, complement,
      bitwise.operate_bitAnd (isNull_int _) (isNull_int _), bitwise.integer_int,
      bitwise.integer_int, complement_and_or, Value.exclusiveOr, if_neg missing]

end Interpretation.Bitwise

namespace Expr

theorem Plain.balanced {e : Expr} (plain : e.Plain) : e.Balanced := by
  induction plain with
  | column | bound | null | rowid | countAll => simp [Balanced, raws]
  | binary op _ _ first second => exact List.forall_mem_append.2 ⟨first, second⟩
  | qualified _ _ _ ih | unary _ _ ih | member _ _ _ ih | within _ _ ih | aggregate _ _ ih
  | aggregateDistinct _ _ ih | cast _ _ ih => exact ih
  | @call arguments name _ ih =>
    have all (items : List Expr) (each : ∀ e ∈ items, e.Balanced) : ∀ f ∈ rawsAll items,
        f.Balanced := by
      induction items with
      | nil => simp [rawsAll]
      | cons item rest rests =>
        obtain ⟨first, others⟩ := List.forall_mem_cons.1 each
        exact List.forall_mem_append.2 ⟨first, rests others⟩
    exact all arguments ih

/-- Operands of integer type hold against every operator of the text. -/
theorem reads_exclusiveOr {t u : SqlType} {x y : Expr} {left right : Tree} (first : x.Reads left)
    (second : y.Reads right) (typed : x.Typed t) (typed' : y.Typed u) (notBool : t.base ≠ .bool)
    (notBool' : u.base ≠ .bool) :
    (binary .bitAnd (unary .bitNot (binary .bitAnd x y)) (binary .bitOr x y)).Reads
      (left.exclusiveOr right) := by
  obtain ⟨-, behind⟩ := typed.levels notBool
  obtain ⟨before, -⟩ := typed'.levels notBool'
  have tight : BinaryOp.bitAnd.level < atomLevel := by decide
  have sign : BinaryOp.bitAnd.level ≤ UnaryOp.neg.level := by decide
  have both := first.binary second .bitAnd (by simp) (Nat.le_trans sign behind) (by rwa [before])
  have either := first.binary second .bitOr (by simp) (Nat.le_trans sign behind) (by rwa [before])
  exact (both.unary .bitNot).binary either .bitAnd (by simp) sign tight

end Expr

/-- The text of an exclusive or of integers is read as the complement of what the operands share
within what either has, each copy of an operand as the operand alone is read. In every row it has
the value of the exclusive or of the values, and it binds the values of both operands twice, those
of each copy at the placeholders of the copy. -/
theorem exclusive_or_is_computed {t u : SqlType} (x : Term t) (y : Operand t)
    (integral : t.base.isInteger = true) (same : u.base = t.base) (typed : x.expr.Typed t)
    (typed' : y.expr.Typed u) :
    let both := (x.bitXor y integral).expr
    ∃ left right, x.expr.fragment.read = some left ∧ y.expr.fragment.read = some right ∧
      both.fragment.read = some (left.exclusiveOr right) ∧
      (∀ (I : Interpretation) (integer : Value → Int64), I.Bitwise integer →
        ∃ v w, x.expr.value? I = some v ∧ y.expr.value? I = some w ∧
          both.value? I = some (v.exclusiveOr integer w)) ∧
      both.fragment.bindings = x.expr.fragment.bindings ++ y.expr.fragment.bindings ++
        x.expr.fragment.bindings ++ y.expr.fragment.bindings ∧
      ∀ write, both.fragment.WritesTo write
        (Term.bitXor (t := t) ⟨x.expr.writtenOut write⟩
            ⟨y.expr.writtenOut write⟩ integral).expr.fragment := by
  intro both
  have notBool : t.base ≠ .bool := by
    intro bool
    rw [bool] at integral
    cases integral
  obtain ⟨left, first⟩ := typed.plain.reads
  obtain ⟨right, second⟩ := typed'.plain.reads
  have whole : both.Reads (left.exclusiveOr right) :=
    Expr.reads_exclusiveOr first second typed typed' notBool (same ▸ notBool)
  have plain : both.Plain :=
    .binary .bitAnd (.unary .bitNot (.binary .bitAnd typed.plain typed'.plain))
      (.binary .bitOr typed.plain typed'.plain)
  have read {e : Expr} {s : Tree} (plain : e.Plain) (reads : e.Reads s) : e.fragment.read =
      some s := by
    rw [Fragment.read, tokens_fragment plain]
    exact Holds.read reads e.rightLevel_pos
  refine ⟨left, right, read typed.plain first, read typed'.plain second, read plain whole, ?value,
    ?bindings, ?placeholders⟩
  case value =>
    intro I integer bitwise
    refine ⟨_, _, first.value? typed.plain I, second.value? typed'.plain I, ?_⟩
    rw [whole.value? plain I, bitwise.value_exclusiveOr]
  case bindings =>
    simp [both, Term.bitXor, Expr.fragment]
  case placeholders =>
    intro write
    exact both.writesTo_writtenOut write plain.balanced

/-- A value as an integer, where only integers are stored. -/
def Value.word : Value → Int64
  | .int n => n
  | _ => 0

/-- Rows of integers, with sums and bitwise operators on them. -/
def Interpretation.words (column : List String → Value) : Interpretation where
  column
  rowid _ := .null
  counts _ := false
  binary op v w := match op with
    | .add => .int (v.word + w.word)
    | .bitAnd => .int (v.word &&& w.word)
    | .bitOr => .int (v.word ||| w.word)
    | _ => .null
  unary op v := match op with
    | .bitNot => .int (~~~v.word)
    | .neg => .int (-v.word)
    | .not => .null
  cast _ v := v
  call _ _ := .null
  aggregate _ _ _ := .null
  countAll := .null

theorem Interpretation.bitwise_words (column : List String → Value) :
    (words column).Bitwise Value.word :=
  ⟨fun _ => rfl, fun _ _ _ _ => rfl, fun _ _ _ _ => rfl, fun _ _ => rfl⟩

/-- A column that may be NULL and a sum with two bound values, in a row with 6 and 7 and in one
without the first number. -/
theorem exclusive_or_is_computed_sum :
    let a := Term.column (.nullable .int64) "a"
    let sum := (Term.column (.required .int64) "b").add (.value (3 : Int64))
    let both := (a.bitXor (.term sum rfl)).expr
    let row (v : Value) := Interpretation.words fun path => if path = ["a"] then v else .int 7
    a.expr.Typed (.nullable .int64) ∧ sum.expr.Typed (.required .int64) ∧
      both.value? (row (.int 6)) = some (.int 12) ∧ both.value? (row .null) = some .null ∧
      both.fragment.bindings = [.int 3, .int 3] := by
  intro a sum both row
  have first : a.expr.Typed (.nullable .int64) := .column "a"
  have second : sum.expr.Typed (.required .int64) :=
    .combination (rfl : BinaryOp.combines .add .int64 = true)
      (rfl : SqlType.base (.required .int64) = .int64)
      (.column "b") (.bound _)
  obtain ⟨-, -, -, -, -, value, bindings, -⟩ :=
    exclusive_or_is_computed (u := .required .int64) a (.term sum rfl) rfl rfl first second
  have computed (v : Value) : ∃ w, sum.expr.value? (row v) = some w ∧
      both.value? (row v) = some (v.exclusiveOr Value.word w) := by
    obtain ⟨v', w, left, right, whole⟩ := value (row v) _ (Interpretation.bitwise_words _)
    have column : a.expr.value? (row v) = some v := Expr.value?_column "a" (row v)
    obtain rfl := Option.some.inj (column.symm.trans left)
    exact ⟨w, right, whole⟩
  have sum_ten (v : Value) : sum.expr.value? (row v) = some (.int 10) := by
    rw [second.plain.value?_eq]
    rfl
  obtain ⟨w, right, whole⟩ := computed (.int 6)
  obtain rfl := Option.some.inj ((sum_ten _).symm.trans right)
  obtain ⟨w', right', missing⟩ := computed .null
  obtain rfl := Option.some.inj ((sum_ten _).symm.trans right')
  exact ⟨first, second, whole, missing, bindings⟩

end TypedSql
