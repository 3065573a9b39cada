import TypedSql.Proofs.Parts

namespace TypedSql.Query

/-- One refinement of a query, with what it is given. -/
inductive Step where
  | select (columns : List Expr)
  | selectDistinct (columns : List Expr)
  | join (kind : JoinKind) (target : Query) (on : Expr)
  | restrict (predicate : Expr)
  | groupBy (terms : List Expr) (condition : Option Expr)
  | orderBy (terms : List Expr)
  | take (length : Nat)
  | takeFrom (length offset : Nat)
  | withoutLimit
  | union (other : Query)
  | labelled (label : String)

/-- The query after one step. -/
def refine (q : Query) : Step → Query
  | .select columns => q.select columns
  | .selectDistinct columns => q.selectDistinct columns
  | .join kind target on => q.joinWith kind target on
  | .restrict predicate => q.restrict predicate
  | .groupBy terms condition => q.groupBy terms condition
  | .orderBy terms => q.orderBy terms
  | .take length => q.take length
  | .takeFrom length offset => q.takeFrom length offset
  | .withoutLimit => q.withoutLimit
  | .union other => q.union other
  | .labelled label => q.labelled label

/-- The query that steps make of a table, the first step first. -/
def build (name : String) (schema : Option String) (steps : List Step) : Query :=
  steps.foldl refine (ofTable name schema)

/-- The expressions that a step is given. Of a join target the filter counts, since it
moves into the condition. -/
def Step.expressions : Step → List Expr
  | .select columns | .selectDistinct columns => columns
  | .join _ target on => on :: target.filter.toList
  | .restrict predicate => [predicate]
  | .groupBy terms condition => terms ++ condition.toList
  | .orderBy terms => terms
  | .union other => other.expressions
  | .take _ | .takeFrom _ _ | .withoutLimit | .labelled _ => []

section Invariant
variable {P : Expr → Prop}

theorem forall_expressions_refine
    (conjoins : ∀ first second, P first → P second → P (conjoin first second))
    {q : Query} {step : Step} (before : ∀ e ∈ q.expressions, P e)
    (given : ∀ e ∈ step.expressions, P e) : ∀ e ∈ (q.refine step).expressions, P e := by
  rw [expressions_eq] at before ⊢
  simp only [List.forall_mem_append, List.forall_mem_map, List.forall_mem_flatMap,
    Option.mem_toList] at before ⊢
  obtain ⟨⟨⟨⟨⟨columns, joins⟩, filter⟩, group⟩, order⟩, unions⟩ := before
  cases step with
  | select newColumns | selectDistinct newColumns =>
    exact ⟨⟨⟨⟨⟨given, joins⟩, filter⟩, group⟩, order⟩, unions⟩
  | join kind target on =>
    obtain ⟨onHolds, targetFilter⟩ := List.forall_mem_cons.1 given
    refine ⟨⟨⟨⟨⟨columns, ?_⟩, filter⟩, group⟩, order⟩, unions⟩
    refine List.forall_mem_append.2 ⟨joins, List.forall_mem_singleton.2 ?_⟩
    cases found : target.filter with
    | none => exact onHolds
    | some condition =>
      exact conjoins on condition onHolds (targetFilter condition (by simp [found]))
  | restrict predicate =>
    have holds := given predicate (List.mem_singleton.2 rfl)
    refine ⟨⟨⟨⟨⟨columns, joins⟩, ?_⟩, group⟩, order⟩, unions⟩
    cases found : q.filter with
    | none => simpa [refine, Query.restrict, found] using holds
    | some existing =>
      simpa [refine, Query.restrict, found]
        using conjoins existing predicate (filter existing found) holds
  | groupBy terms condition =>
    refine ⟨⟨⟨⟨⟨columns, joins⟩, filter⟩, fun replaced same => ?_⟩, order⟩, unions⟩
    obtain rfl := Option.some.inj same
    exact given
  | orderBy terms => exact ⟨⟨⟨⟨⟨columns, joins⟩, filter⟩, group⟩, given⟩, unions⟩
  | union other =>
    refine ⟨⟨⟨⟨⟨columns, joins⟩, filter⟩, group⟩, order⟩, ?_⟩
    exact List.forall_mem_append.2 ⟨unions, List.forall_mem_singleton.2 given⟩
  | take | takeFrom | withoutLimit | labelled =>
    exact ⟨⟨⟨⟨⟨columns, joins⟩, filter⟩, group⟩, order⟩, unions⟩

theorem forall_expressions_build
    (conjoins : ∀ first second, P first → P second → P (conjoin first second))
    (star : P .star) (name : String) (schema : Option String) {steps : List Step}
    (given : ∀ step ∈ steps, ∀ e ∈ step.expressions, P e) :
    ∀ e ∈ (build name schema steps).expressions, P e := by
  have run (q : Query) (before : ∀ e ∈ q.expressions, P e) :
      ∀ e ∈ (steps.foldl refine q).expressions, P e := by
    induction steps generalizing q with
    | nil => exact before
    | cons step rest ih =>
      obtain ⟨stepGiven, restGiven⟩ := List.forall_mem_cons.1 given
      exact ih restGiven _ (forall_expressions_refine conjoins before stepGiven)
  refine run _ ?_
  simpa [expressions_eq, ofTable] using star

end Invariant

end TypedSql.Query
