import TypedSql.Connection.Scripted
import TypedSql.Proofs.Positions
import TypedSql.Proofs.SessionRun
import TypedSql.Proofs.Wildcards

namespace TypedSql

namespace Query

variable {c : Connection σ ρ} {q : Query} {s : σ}

theorem resultNames_of_plain {columns : List Expr}
    (plain : ∀ e ∈ columns, ¬ IsWildcard e.template) :
    (q.resultNames c columns).runFrom s = (.ok (columns.map Expr.template), s) := by
  induction columns with
  | nil => rfl
  | cons column rest ih =>
    obtain ⟨first, others⟩ := List.forall_mem_cons.1 plain
    rw [resultNames, Selected.ofTemplate_of_not_wildcard first, selectedNames, pure_bind]
    exact Session.runFrom_bind_of_ok (ih others)

theorem resolveColumns_of_plain (plain : ∀ e ∈ q.columns, ¬ IsWildcard e.template) :
    (q.resolveColumns c).runFrom s = (.ok (.ofNames (q.columns.map Expr.template)), s) :=
  Session.runFrom_bind_of_ok (resultNames_of_plain plain)

end Query

/-- Built expressions are not wildcards unless a star was put at their end. A query with no
wildcard resolves on every connection, and a term is then read at the last position whose
expression has the text of the term. -/
theorem selected_text_reads_back :
    (∀ e : Expr, e.raws = [] → e.isStarred = false → ¬ IsWildcard e.template) ∧
    ∀ {σ ρ : Type} (c : Connection σ ρ) (s : σ) (q : Query),
      (∀ e ∈ q.columns, ¬ IsWildcard e.template) →
      ∃ map, (q.resolveColumns c).runFrom s = (.ok map, s) ∧
        ∀ {t : SqlType} (x : Term t) (i : Nat) (e : Expr),
          q.columns[i]? = some e → e.template = x.template →
          (∀ later > i, ∀ other, q.columns[later]? = some other → other.template ≠ x.template) →
          ∀ values : List Value,
            (Row.mk map values).getOptional x = .ok (values[i]?.bind t.base.decode) := by
  refine ⟨fun e built plain => Expr.not_isWildcard built plain, fun c s q plain => ?_⟩
  refine ⟨_, Query.resolveColumns_of_plain plain, ?_⟩
  intro t x i e selected same isLast values
  have atPosition : (q.columns.map Expr.template)[i]? = some x.template := by
    simp [selected, same]
  have notLater (later : Nat) (past : later > i) :
      (q.columns.map Expr.template)[later]? ≠ some x.template := by
    intro again
    rw [List.getElem?_map] at again
    obtain ⟨other, found, equal⟩ := Option.map_eq_some_iff.1 again
    exact isLast later past other found equal
  have registered := ColumnMap.get?_ofNames_eq_some_iff.2 ⟨atPosition, notLater⟩
  exact Row.getOptional_of_get? registered values

/-- A sum and a column beside it. -/
theorem selected_text_reads_back_sum :
    let sum : Term (.required .int64) := (Term.column _ "a").add (.value (1 : Int64))
    let q := (Query.ofTable "t").select [sum.expr, .column "b"]
    (∀ e ∈ q.columns, ¬ IsWildcard e.template) ∧
    ∃ map, (q.resolveColumns (Script.connection ⟨[], .ok {}⟩)).runFrom () = (.ok map, ()) ∧
      (Row.mk map [.int 11, .int 12]).getOptional sum = .ok (some (11 : Int64)) := by
  intro sum q
  obtain ⟨built, reads⟩ := selected_text_reads_back
  have plain : ∀ e ∈ q.columns, ¬ IsWildcard e.template :=
    List.forall_mem_cons.2 ⟨built _ rfl rfl, List.forall_mem_singleton.2 (built _ rfl rfl)⟩
  obtain ⟨map, resolved, reading⟩ := reads (Script.connection ⟨[], .ok {}⟩) () q plain
  refine ⟨plain, map, resolved, reading sum 0 sum.expr rfl rfl ?_ _⟩
  intro later past other found
  have second : later = 1 ∧ other = .column "b" := by
    match later, past with
    | 1, _ => exact ⟨rfl, (Option.some.inj found).symm⟩
  rw [second.2]
  decide

/-- Two sums that differ only in what they bind have one text, and the value of the second
is read for the first. -/
theorem equal_texts_read_the_last :
    let first : Term (.required .int64) := (Term.column _ "a").add (.value (1 : Int64))
    let second : Term (.required .int64) := (Term.column _ "a").add (.value (2 : Int64))
    let q := (Query.ofTable "t").select [first.expr, second.expr]
    first.expr.fragment ≠ second.expr.fragment ∧ (∀ e ∈ q.columns, ¬ IsWildcard e.template) ∧
    ∃ map, (q.resolveColumns (Script.connection ⟨[], .ok {}⟩)).runFrom () = (.ok map, ()) ∧
      (Row.mk map [.int 11, .int 12]).getOptional first = .ok (some (12 : Int64)) ∧
      (Row.mk map [.int 11, .int 12]).getOptional first ≠
        .ok (BaseType.int64.decode (.int 11)) := by
  intro first second q
  have built (x : Term (.required .int64)) (noRaws : x.expr.raws = [])
      (plain : x.expr.isStarred = false) :
      ¬ IsWildcard x.expr.template := Expr.not_isWildcard noRaws plain
  have plain : ∀ e ∈ q.columns, ¬ IsWildcard e.template :=
    List.forall_mem_cons.2 ⟨built first rfl rfl, List.forall_mem_singleton.2 (built second rfl rfl)⟩
  have registered :
      (ColumnMap.ofNames (q.columns.map Expr.template)).get? first.template = some 1 :=
    by decide
  have reading := Row.getOptional_of_get? registered [.int 11, .int 12]
  refine ⟨by decide, plain, _, Query.resolveColumns_of_plain plain, reading, ?_⟩
  rw [reading]
  intro same
  have values : some (12 : Int64) = some 11 := Except.ok.inj same
  exact absurd values (by decide)

end TypedSql
