import TypedSql.Proofs.JoinedStar

namespace TypedSql

namespace Row

/-- Looking the column up succeeds, and a value other than NULL stands where it was found. -/
def Finds (row : Row) (x : Term t) : Prop :=
  ∃ index value, index? row.columns x.template = .ok index ∧
    row.values[index]? = some value ∧ value.isNull = false

/-- The column goes by one qualified name alone, and a value other than NULL stands there. -/
def FindsQualified (row : Row) (x : Term t) : Prop :=
  row.columns.get? x.template = none ∧
    ∃ name index value,
    row.columns.similar x.template = [name] ∧ row.columns.get? name = some index ∧
      row.values[index]? = some value ∧ value.isNull = false

variable {row : Row} {name : String}

theorem hasValue_of_get? {index : Nat} (found : row.columns.get? (Text.quote name) = some index) :
    row.hasValue name = true ↔ ∃ value, row.values[index]? = some value ∧ value.isNull = false := by
  simp only [hasValue, found, Option.bind_some]
  cases row.values[index]? with
  | none => simp
  | some value => simp

theorem hasValue_of_absent (absent : row.columns.get? (Text.quote name) = none) :
    row.hasValue name = false := by
  simp only [hasValue, absent, Option.bind_none]

theorem finds_of_get? {x : Term t} {index : Nat}
    (found : row.columns.get? x.template = some index) :
    row.Finds x ↔ ∃ value, row.values[index]? = some value ∧ value.isNull = false := by
  simp only [Finds, index?_of_get? found, Except.ok.injEq]
  constructor
  · rintro ⟨_, value, rfl, held⟩
    exact ⟨value, held⟩
  · rintro ⟨value, held⟩
    exact ⟨index, value, rfl, held⟩

theorem finds_of_absent {x : Term t} (absent : row.columns.get? x.template = none) :
    row.Finds x ↔ row.FindsQualified x := by
  simp only [Finds, FindsQualified, index?_eq_ok_iff absent]
  constructor
  · rintro ⟨index, value, ⟨name, only, found⟩, held⟩
    exact ⟨absent, name, index, value, only, found, held⟩
  · rintro ⟨_, name, index, value, only, found, held⟩
    exact ⟨index, value, ⟨name, only, found⟩, held⟩

end Row

/-- The presence test is yes exactly where reading the column finds a value and the map holds
the column by just its name. So it agrees with reading unless the column is found by a
qualified name only: there it is no in spite of the value. On the columns of a joined star
it is never yes. -/
theorem presence_test_agrees_iff (row : Row) (t : SqlType) (name : String) :
    (row.hasValue name = true ↔
      row.Finds (Term.column t name) ∧ (row.columns.get? (Text.quote name)).isSome) ∧
    ((row.hasValue name = true ↔ row.Finds (Term.column t name)) ↔
      ¬ row.FindsQualified (Term.column t name)) ∧
    ∀ reported values, (Row.mk (Query.joinedMap reported) values).hasValue name = false := by
  have joined (reported : List (Query × List String)) (values : List Value) :
      (Row.mk (Query.joinedMap reported) values).hasValue name = false :=
    Row.hasValue_of_absent Query.get?_joinedMap_quote
  rw [← and_assoc]
  refine ⟨?_, joined⟩
  cases found : row.columns.get? (Text.quote name) with
  | some index =>
    have reads : row.Finds (Term.column t name) ↔ _ := Row.finds_of_get? found
    have registered : ¬ row.FindsQualified (Term.column t name) := by
      rintro ⟨absent, -⟩
      rw [Term.template_column, found] at absent
      cases absent
    rw [Row.hasValue_of_get? found, ← reads]
    simp [registered]
  | none =>
    have reads : row.Finds (Term.column t name) ↔ _ := Row.finds_of_absent found
    rw [Row.hasValue_of_absent found, reads]
    simp

/-- A column that a join gives under its qualified name is read, and said to be absent. -/
theorem qualified_column_seems_absent :
    let row : Row := ⟨.ofNames ["\"users\".\"id\""], [.int 4]⟩
    let id : Term (.required .int64) := .column _ "id"
    row.hasValue "id" = false ∧ row.Finds id ∧ row.getOptional id = .ok (some (4 : Int64)) ∧
      ¬ (row.hasValue "id" = true ↔ row.Finds id) := by
  intro row id
  have absent : row.columns.get? id.template = none := by decide
  have only : row.columns.similar id.template = ["\"users\".\"id\""] := by decide
  have found : row.columns.get? "\"users\".\"id\"" = some 0 := by decide
  have position : Row.index? row.columns id.template = .ok 0 :=
    Row.index?_of_similar absent only found
  have finds : row.Finds id := ⟨0, .int 4, position, rfl, rfl⟩
  have test : row.hasValue "id" = false := Row.hasValue_of_absent absent
  refine ⟨test, finds, ?_, ?_⟩
  · simp only [Row.getOptional, position]
    rfl
  · intro agree
    rw [agree.2 finds] at test
    cases test

end TypedSql
