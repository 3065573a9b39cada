import TypedSql.Database.Run

/-! Expressions as a database groups them, and the values they have in a row. Truth
values are three: a test of NULL is neither true nor false. What is fixed here is the
logic, the comparisons and the tests made of them; the rest, and the row itself, are left
to an interpretation. -/
namespace TypedSql

/-- An expression with its grouping. The path of a column names its tables first. -/
inductive Tree where
  | column (path : List String)
  | rowid (path : List String)
  | bound (value : Value)
  | null
  | countAll
  | binary (op : BinaryOp) (left right : Tree)
  | unary (op : UnaryOp) (operand : Tree)
  | between (item low high : Tree)
  | member (negated : Bool) (item : Tree) (values : List Tree)
  | aggregate (function : Aggregate) (distinct : Bool) (item : Tree)
  | call (name : String) (arguments : List Tree)
  | cast (item : Tree) (target : DeclaredType)

/-- A truth value, `none` for the unknown one. -/
abbrev Truth := Option Bool

namespace Truth

def and : Truth → Truth → Truth
  | some false, _ | _, some false => some false
  | some true, some true => some true
  | _, _ => none

def or : Truth → Truth → Truth
  | some true, _ | _, some true => some true
  | some false, some false => some false
  | _, _ => none

def not (a : Truth) : Truth :=
  a.map (!·)

/-- Truth values are integers, the unknown one is NULL. -/
def value : Truth → Value
  | none => .null
  | some holds => .int (if holds then 1 else 0)

theorem and_assoc (a b c : Truth) : (a.and b).and c = a.and (b.and c) := by
  rcases a with _ | _ | _ <;> rcases b with _ | _ | _ <;> rcases c with _ | _ | _ <;> rfl

end Truth

/-- The comparison that an operator makes. -/
def BinaryOp.comparison? : BinaryOp → Option Database.Comparison
  | eq => some .eq
  | notEq => some .notEq
  | lt => some .lt
  | ltEq => some .ltEq
  | gt => some .gt
  | gtEq => some .gtEq
  | _ => none

namespace Value

/-- A comparison of two values, unknown beside NULL. -/
def compare (op : Database.Comparison) (a b : Value) : Truth :=
  if a.isNull || b.isNull then none else some (op.holds a b)

/-- Whether a value lies in an interval. -/
def liesIn (v : Value) : Interval Value → Truth
  | .closed low high => (v.compare .gtEq low).and (v.compare .ltEq high)
  | .halfOpen low high => (v.compare .gtEq low).and (v.compare .lt high)
  | .atMost high => v.compare .ltEq high
  | .below high => v.compare .lt high
  | .atLeast low => v.compare .gtEq low

/-- Whether a value is among some others. Nothing is among none. -/
def isAmong (v : Value) (values : List Value) : Truth :=
  values.foldr (fun other found => (v.compare .eq other).or found) (some false)

/-- The value of a test whether a value is, or is not, among some others. -/
def membership (negated : Bool) (v : Value) (values : List Value) : Value :=
  if negated then (v.isAmong values).not.value else (v.isAmong values).value

end Value

/-- A row and the group it is in, and what a database does with values where more than
NULL and the order of values counts. -/
structure Interpretation where
  column : List String → Value
  rowid : List String → Value
  /-- Whether a real number, a text or bytes count as true. -/
  counts : Value → Bool
  /-- Arithmetic, concatenation and patterns on values that are not NULL. -/
  binary : BinaryOp → Value → Value → Value
  /-- The sign and the bits of a value that is not NULL. -/
  unary : UnaryOp → Value → Value
  cast : DeclaredType → Value → Value
  call : String → List Value → Value
  aggregate : Aggregate → Bool → Tree → Value
  countAll : Value

namespace Interpretation

variable (I : Interpretation)

/-- What a value counts as in logic. -/
def truth : Value → Truth
  | .null => none
  | .int n => some (n != 0)
  | v => some (I.counts v)

/-- The value of an operator on two values. -/
def operate (op : BinaryOp) (a b : Value) : Value :=
  match op with
  | .and => ((I.truth a).and (I.truth b)).value
  | .or => ((I.truth a).or (I.truth b)).value
  | .is => Truth.value (some (a.same b))
  | .isNot => Truth.value (some (!a.same b))
  | op => match op.comparison? with
    | some comparison => (a.compare comparison b).value
    | none => if a.isNull || b.isNull then .null else I.binary op a b

def apply (op : UnaryOp) (a : Value) : Value :=
  match op with
  | .not => (I.truth a).not.value
  | op => if a.isNull then .null else I.unary op a

def convert (target : DeclaredType) (a : Value) : Value :=
  if a.isNull then .null else I.cast target a

@[simp] theorem truth_value (a : Truth) : I.truth a.value = a := by
  rcases a with _ | _ | _ <;> rfl

theorem operate_and_assoc (a b c : Value) :
    I.operate .and (I.operate .and a b) c = I.operate .and a (I.operate .and b c) := by
  simp only [operate, truth_value, Truth.and_assoc]

end Interpretation

namespace Tree

mutual

/-- The value of an expression in a row. -/
def value (I : Interpretation) : Tree → Value
  | column path => I.column path
  | rowid path => I.rowid path
  | bound v => v
  | null => .null
  | countAll => I.countAll
  | binary op left right => I.operate op (left.value I) (right.value I)
  | unary op operand => I.apply op (operand.value I)
  | between item low high =>
    (((item.value I).compare .gtEq (low.value I)).and
    ((item.value I).compare .ltEq (high.value I))).value
  | member negated item others => (item.value I).membership negated (values I others)
  | aggregate function distinct item => I.aggregate function distinct item
  | call name arguments => I.call name (values I arguments)
  | cast item target => I.convert target (item.value I)

def values (I : Interpretation) : List Tree → List Value
  | [] => []
  | item :: rest => item.value I :: values I rest

end

theorem values_map_bound (I : Interpretation) (others : List Value) :
    values I (others.map bound) = others := by
  induction others with
  | nil => rfl
  | cons v rest ih => simp [values, value, ih]

/-- The test that an item lies in an interval, with its grouping. -/
def test (item : Tree) : Interval Value → Tree
  | .closed low high => .between item (.bound low) (.bound high)
  | .halfOpen low high =>
    .binary .and (.binary .gtEq item (.bound low)) (.binary .lt item (.bound high))
  | .atMost high => .binary .ltEq item (.bound high)
  | .below high => .binary .lt item (.bound high)
  | .atLeast low => .binary .gtEq item (.bound low)

theorem value_test (I : Interpretation) (item : Tree) (interval : Interval Value) :
    (item.test interval).value I = ((item.value I).liesIn interval).value := by
  cases interval <;>
    simp [test, value, Value.liesIn, Interpretation.operate, BinaryOp.comparison?]

end Tree

end TypedSql
