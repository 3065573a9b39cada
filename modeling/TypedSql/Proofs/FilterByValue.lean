import TypedSql.Proofs.FilterMeaning
import TypedSql.Proofs.InsertedRow
import TypedSql.Proofs.TimestampLayout

namespace TypedSql

open Database (storable)

namespace Value

theorem storable_eq {v : Value} (number : v.isNaN = false) : storable v = v := by
  cases v with
  | real x =>
    have notNone : ¬ x.isNaN = true := Bool.eq_false_iff.1 number
    rw [storable, if_neg notNone]
  | null | int | text | blob => rfl

theorem same_self (v : Value) : v.same v = true :=
  decide_eq_true rfl

theorem same_int_iff (m n : Int64) : (int m).same (int n) = true ↔ m = n := by
  have unit (size : Nat) : 0 < Nat.pow 2 size := Nat.pow_pos (by decide)
  have scaled {u : Nat} (positive : 0 < u) : SortKey.number (m.toInt * u) = .number (n.toInt * u) ↔
      m = n := by
    rw [SortKey.number.injEq, Int.mul_eq_mul_right_iff (by omega), Int64.toInt_inj]
  rw [same, decide_eq_true_iff, sortKey, sortKey]
  apply scaled
  apply unit

theorem same_text_iff (s t : String) : (text s).same (text t) = true ↔ s = t := by
  simp only [same, sortKey, decide_eq_true_eq, SortKey.text.injEq]

theorem compare_eq_some {v w : Value} (present : v.isNull = false) (present' : w.isNull = false) :
    v.compare .eq w = some (v.same w) := by
  simp [compare, Database.Comparison.holds, present, present']

end Value

namespace BaseType
variable {b : BaseType} {r : Value} {v : b.Host}

/-- A stored value of the form that is written for a value of the type. -/
def Canonical : BaseType → Value → Prop
  | bool, .int n => n = 0 ∨ n = 1
  | dateTime, .text s => Calendar.Written s.toList
  | _, _ => True

/-- A stored value of the written form is what is written for the value that it reads as. -/
theorem encode_of_canonical (read : b.decode r = some v) (canonical : b.Canonical r) :
    b.encode v = r := by
  cases b <;> cases r <;> simp only [decode, reduceCtorEq] at read
  case int64 | real | text | bytes => rw [encode, Option.some.inj read]
  case int32 n =>
    split at read
    · rename_i range
      have small : n.toInt32.toInt = n.toInt := by
        rw [Int64.toInt_toInt32]
        exact Int.bmod_eq_of_le range.1 (Int.lt_add_one_of_le range.2)
      have wide : n.toInt32.toInt64 = n := Int64.toInt_inj.1 ((Int32.toInt_toInt64 _).trans small)
      obtain rfl := Option.some.inj read
      rw [encode, wide]
    · cases read
  case bool n =>
    obtain rfl := Option.some.inj read
    rcases canonical with rfl | rfl <;> rfl
  case dateTime s =>
    rw [encode, (Calendar.DateTime.text_eq_iff_written read).2 canonical]

/-- A stored value is equal to what is written for the value that it reads as only if it has
the written form. -/
theorem canonical_of_same (read : b.decode r = some v) (same : r.same (b.encode v) = true) :
    b.Canonical r := by
  cases b <;> cases r <;> simp only [Canonical]
  case bool n =>
    rw [encode, Value.same_int_iff] at same
    cases v with
    | false => exact .inl same
    | true => exact .inr same
  case dateTime s =>
    rw [encode, Value.same_text_iff] at same
    exact (Calendar.DateTime.text_eq_iff_written read).1 same.symm

theorem isNull_of_decode (read : b.decode r = some v) : r.isNull = false := by
  cases r with
  | null => rw [decode_null] at read; cases read
  | _ => rfl

theorem isNaN_encode (read : b.decode r = some v) : (b.encode v).isNaN = r.isNaN := by
  cases b with
  | real =>
    cases r <;> simp only [decode, reduceCtorEq] at read
    rw [encode, Option.some.inj read]
  | _ =>
    cases r <;> simp only [decode, reduceCtorEq] at read
    rfl

theorem isNull_encode (b : BaseType) (v : b.Host) : (b.encode v).isNull = false := by
  cases b <;> rfl

end BaseType

theorem Term.truth?_column_eq (I : Interpretation) (t : SqlType) (name : String) (v : t.base.Host) :
    ((column t name).eq (.value v)).expr.truth? I =
      some ((I.column [name]).compare .eq (t.base.encode v)) := by
  have bound : (Expr.bound (t.base.encode v)).Reads (.bound (t.base.encode v)) :=
    (Reading.stands_bound _).holds _ _
  have level : BinaryOp.eq.level < Expr.atomLevel := by decide
  have reads := (Expr.reads_column name).binary bound .eq (by simp) (Nat.le_of_lt level) level
  have plain : (Expr.binary .eq (.column name) (.bound (t.base.encode v))).Plain :=
    .binary .eq (.column name) (.bound _)
  have value := reads.value? plain I
  have operator : ((column t name).eq (.value v)).expr =
      .binary .eq (.column name) (.bound (t.base.encode v)) := by
    have placeholder : (Expr.bound (t.base.encode v)).fragment.isNullLiteral = false := by
      rw [Bool.eq_false_iff, ne_eq, (Expr.Plain.bound _).isNullLiteral_iff]
      simp
    simp only [Term.eq, Operand.value, placeholder]
    rfl
  rw [operator, Expr.truth?, value, Option.map_some]
  exact congrArg some (I.truth_value _)

/-- A column is equal to a value that was read from it exactly if it holds the form that is
written for the value, and in every row the filter on the column and the value says just that:
integers, numbers, texts and bytes find their row always, a truth value from 0 and 1 only, and a
point in time only from a text in which all fields have the width that they are written with. -/
theorem read_value_finds_its_row_iff (I : Interpretation) (t : SqlType) (name : String) {r : Value}
    (number : r.isNaN = false) (holds : I.column [name] = storable r) {v : t.base.Host}
    (read : t.base.decode r = some v) :
    let equal := (storable r).compare .eq (storable (t.base.encode v))
    (equal = some true ↔ t.base.Canonical r) ∧
        ((Term.column t name).eq (.value v)).expr.truth? I = some equal := by
  intro equal
  have stored : storable r = r := Value.storable_eq number
  have bound : storable (t.base.encode v) = t.base.encode v :=
    Value.storable_eq ((BaseType.isNaN_encode read).trans number)
  have comparison : equal = some (r.same (t.base.encode v)) := by
    rw [← Value.compare_eq_some (BaseType.isNull_of_decode read) (t.base.isNull_encode v)]
    simp only [equal, stored, bound]
  constructor
  · rw [comparison, Option.some.injEq]
    constructor
    · exact BaseType.canonical_of_same read
    · intro canonical
      rw [BaseType.encode_of_canonical read canonical]
      exact r.same_self
  · rw [Term.truth?_column_eq, holds]
    simp only [equal, bound]

/-- A leap second in the written form, under a nullable type. -/
theorem read_value_finds_its_row_iff_leap_second :
    let stored : Value := .text "2016-12-31T23:59:60.250"
    let leap : Calendar.DateTime := ⟨⟨2016, 12, 31, 23, 59, 59, 1250000000⟩, by decide⟩
    let column := Term.column (.nullable .dateTime) "at"
    (stored.isNaN = false ∧ BaseType.decode .dateTime stored = some leap) ∧
      BaseType.Canonical .dateTime stored ∧
      (column.eq (.value leap)).expr.truth? (.uniform stored) = some (some true) := by
  intro stored leap column
  have read : BaseType.decode .dateTime stored = some leap := by
    change Calendar.DateTime.ofText? "2016-12-31T23:59:60.250" = some leap
    decide
  obtain ⟨equal, filter⟩ :=
    read_value_finds_its_row_iff (.uniform stored) (.nullable .dateTime) "at"
      (r := stored) rfl rfl read
  have found : (storable stored).compare .eq (storable (BaseType.encode .dateTime leap)) =
      some true := by
    decide
  exact ⟨⟨rfl, read⟩, equal.1 found, filter.trans (congrArg some found)⟩

/-- The integer 2 reads as true, which is written as 1, and a time without a fraction reads as
one that is written with three digits: neither is equal to what was read from it. -/
theorem lenient_readings_miss_their_row :
    (BaseType.decode .bool (.int 2) = some true ∧
      (Value.int 2).compare .eq (BaseType.encode .bool true) = some false) ∧
    ∃ d : Calendar.DateTime, BaseType.decode .dateTime (.text "2024-03-09T14:05:06") = some d ∧
      (Value.text "2024-03-09T14:05:06").compare .eq (BaseType.encode .dateTime d) =
        some false := by
  let d : Calendar.DateTime := ⟨⟨2024, 3, 9, 14, 5, 6, 0⟩, by decide⟩
  refine ⟨⟨rfl, ?truth⟩, d, ?read, ?time⟩
  case truth =>
    have written : BaseType.encode .bool true = .int 1 := rfl
    have differ : (Value.int 2).same (.int 1) = false := by
      rw [Bool.eq_false_iff, ne_eq, Value.same_int_iff]
      decide
    rw [written, Value.compare_eq_some (v := .int 2) (w := .int 1) rfl rfl, differ]
  case read =>
    change Calendar.DateTime.ofText? "2024-03-09T14:05:06" = some d
    decide
  case time =>
    have differ : (Value.text "2024-03-09T14:05:06").same (.text d.text) = false := by
      rw [Bool.eq_false_iff, ne_eq, Value.same_text_iff]
      decide
    rw [BaseType.encode,
      Value.compare_eq_some (v := .text "2024-03-09T14:05:06") (w := .text d.text) rfl rfl,
      differ]

end TypedSql
