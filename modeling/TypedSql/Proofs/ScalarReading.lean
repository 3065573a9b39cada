import TypedSql.Connection.Scripted
import TypedSql.Proofs.Iteration
import TypedSql.Proofs.ReadBack
import TypedSql.Proofs.StoredValues

namespace TypedSql

theorem BaseType.decode_getD_null (b : BaseType) (value : Option Value) :
    b.decode (value.getD .null) = value.bind b.decode := by
  cases value with
  | none => exact b.decode_null
  | some value => rfl

theorem Row.get_of_alone (x : Term t) (values : List Value) :
    (Row.mk (.ofNames [x.template]) values).get x =
      t.ofOption x.template (values.head?.bind t.base.decode) := by
  have registered : (ColumnMap.ofNames [x.template]).get? x.template = some 0 :=
    ColumnMap.get?_ofNames_of_nodup (List.pairwise_singleton _ _) rfl
  simp only [Row.get, Row.getOptional_of_get? registered, ← List.head?_eq_getElem?]
  rfl

namespace Query

variable {σ ρ : Type} {c : Connection σ ρ} {statement : Fragment} {s next last : σ} {p rest : ρ}

theorem runFrom_firstValue_of_prepare_error {e : Error}
    (prepared : (c.prepare statement).runFrom s = (.error e, last)) :
    (firstValue c statement).runFrom s = (.error e, last) :=
  Session.runFrom_bind_of_error prepared

/-- The first value is taken from what one step of the prepared statement gives. -/
theorem runFrom_firstValue_of_step {row : Except Error (Option (List Value))}
    (prepared : (c.prepare statement).runFrom s = (.ok p, next))
    (stepped : (c.step p).run next = ((row, rest), last)) :
    (firstValue c statement).runFrom s =
      (row.map fun values => (values.bind List.head?).getD .null, last) := by
  have scalar : (c.scalar p).run next =
      ((row.map fun values => (values.bind List.head?).getD .null, rest), last) := by
    rw [Connection.scalar, StateT.run_bind, stepped]
    rfl
  rw [firstValue, Session.runFrom_bind_of_ok prepared, Session.runFrom_lift_bind, scalar]
  cases row with
  | error e => rfl
  | ok values => rfl

end Query

namespace ScalarQuery

variable {σ ρ : Type} {c : Connection σ ρ} {query : ScalarQuery t} {s last : σ}

theorem runFrom_value_of_error {e : Error}
    (first : (Query.firstValue c query.query.fragment).runFrom s = (.error e, last)) :
    (query.value c).runFrom s = (.error e, last) :=
  Session.runFrom_bind_of_error first

theorem runFrom_value_of_ok {value : Value}
    (first : (Query.firstValue c query.query.fragment).runFrom s = (.ok value, last)) :
    (query.value c).runFrom s =
      ((t.ofOption query.column.template (t.base.decode value)).mapError .query, last) := by
  rw [ScalarQuery.value, Session.runFrom_bind_of_ok first]
  cases t.ofOption query.column.template (t.base.decode value) with
  | error e => rfl
  | ok host => rfl

end ScalarQuery

/-- A one-column query gives what its column reads in the first row that the query's statement
hands out, under the column map of the query that selects this column; the same value and
the same complaint under the same name. Without a row it gives what an absent value gives,
and a failure to prepare or to step is the result as it is. -/
theorem scalar_reads_as_row {σ ρ : Type} (c : Connection σ ρ) (s : σ) (q : Query) (x : Term t)
    (distinct : Bool) (plain : ¬ IsWildcard x.template) :
    ∃ map, (∀ start, ((q.select [x.expr]).resolveColumns c).runFrom start = (.ok map, start)) ∧
      (ScalarQuery.value c ⟨q, x, distinct⟩).runFrom s =
        match (c.prepare (ScalarQuery.mk q x distinct).query.fragment).runFrom s with
        | (.error e, last) => (.error e, last)
        | (.ok statement, next) =>
          match (c.step statement).run next with
          | ((.error e, _), last) => (.error e, last)
          | ((.ok none, _), last) => ((t.ofOption x.template none).mapError .query, last)
          | ((.ok (some values), _), last) =>
            (((Row.mk map values).get x).mapError .query, last) := by
  have single : ∀ e ∈ (q.select [x.expr]).columns, ¬ IsWildcard e.template :=
    List.forall_mem_singleton.2 plain
  refine ⟨.ofNames [x.template], fun start => Query.resolveColumns_of_plain single, ?_⟩
  rcases prepared : (c.prepare (ScalarQuery.mk q x distinct).query.fragment).runFrom s with
    ⟨e | p, next⟩
  · exact ScalarQuery.runFrom_value_of_error (Query.runFrom_firstValue_of_prepare_error prepared)
  · rcases stepped : (c.step p).run next with ⟨⟨e | row, rest⟩, last⟩
    · simp only [stepped]
      exact ScalarQuery.runFrom_value_of_error (Query.runFrom_firstValue_of_step prepared stepped)
    · have value :=
        ScalarQuery.runFrom_value_of_ok (Query.runFrom_firstValue_of_step prepared stepped)
      rw [value, BaseType.decode_getD_null]
      cases row with
      | none =>
        simp only [stepped]
        rfl
      | some values =>
        simp only [stepped, Row.get_of_alone]
        rfl

/-- A first row that holds a text for a number. -/
theorem scalar_reads_as_row_text_for_number :
    let age : Term (.required .int64) := .column _ "age"
    let query : ScalarQuery (.required .int64) := ⟨.ofTable "users", age, false⟩
    let rows : List (Except String (Option (List Value))) := [.ok (some [.text "old", .int 3])]
    let c :=
      (Script.mk [("SELECT \"age\" FROM \"users\"", .ok ⟨.ok ["age"], rows⟩)] (.ok {})).connection
    ¬ IsWildcard age.template ∧
      (∃ map, (query.value c).runFrom () =
        (((Row.mk map [.text "old", .int 3]).get age).mapError .query, ())) ∧
      (query.value c).runFrom () = (.error (.query (.unexpectedNull "\"age\"")), ()) := by
  intro age query rows c
  have plain : ¬ IsWildcard age.template := Expr.not_isWildcard rfl rfl
  have statement : query.query.fragment = ⟨"SELECT \"age\" FROM \"users\"", []⟩ := by decide
  have prepared : (c.prepare query.query.fragment).runFrom () = (.ok ⟨.ok ["age"], rows⟩, ()) := by
    rw [statement]
    rfl
  obtain ⟨map, -, read⟩ := scalar_reads_as_row c () (.ofTable "users") age false plain
  rw [prepared] at read
  have stepped : (c.step ⟨.ok ["age"], rows⟩).run () =
      ((.ok (some [.text "old", .int 3]), ⟨.ok ["age"], []⟩), ()) := rfl
  have first := Query.runFrom_firstValue_of_step prepared stepped
  refine ⟨plain, ⟨map, read⟩, ?_⟩
  rw [ScalarQuery.runFrom_value_of_ok first]
  rfl

end TypedSql
