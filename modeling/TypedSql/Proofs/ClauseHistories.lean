import Mathlib.Data.List.Induction
import TypedSql.Proofs.Steps

/-! A query by the histories of its clauses. Each step touches one clause: it replaces what
stood there, adds to it, or conjoins with it. So a query is determined by the steps that
touch each clause in their order, and steps on different clauses may change places. -/
namespace TypedSql.Query

/-- What a step touches of a query. -/
inductive Part where
  | selection
  | joins
  | filter
  | group
  | order
  | limit
  | unions
  | label
  deriving DecidableEq

namespace Step

def part : Step → Part
  | select _ | selectDistinct _ => .selection
  | join _ _ _ => .joins
  | restrict _ => .filter
  | groupBy _ _ => .group
  | orderBy _ => .order
  | take _ | takeFrom _ _ | withoutLimit => .limit
  | union _ => .unions
  | labelled _ => .label

/-- Whether duplicates go, and the columns. -/
def selection? : Step → Option (Bool × List Expr)
  | select columns => some (false, columns)
  | selectDistinct columns => some (true, columns)
  | _ => none

/-- The join, with the filter of the target in its condition. -/
def joined? : Step → Option (Join Query)
  | join kind target on => some { kind, target, condition := target.filter.elim on (conjoin on) }
  | _ => none

def predicate? : Step → Option Expr
  | restrict predicate => some predicate
  | _ => none

def group? : Step → Option Group
  | groupBy terms condition => some { terms, condition }
  | _ => none

def order? : Step → Option (List Expr)
  | orderBy terms => some terms
  | _ => none

/-- The limit, which may be none. -/
def limit? : Step → Option (Option Limit)
  | take length => some (some { length })
  | takeFrom length offset => some (some { length, offset := some offset })
  | withoutLimit => some none
  | _ => none

def united? : Step → Option Query
  | union other => some other
  | _ => none

def label? : Step → Option String
  | labelled label => some label
  | _ => none

end Step

/-- Several predicates at once, each beside all that came before it. -/
def conjunction : List Expr → Option Expr
  | [] => none
  | first :: rest => some (rest.foldl conjoin first)

/-- The last that steps give for a clause. -/
def lastGiven (given : Step → Option α) (steps : List Step) : Option α :=
  (steps.filterMap given).getLast?

/-- The query of a table whose clauses have these histories. -/
def ofHistories (name : String) (schema : Option String) (steps : List Step) : Query where
  table := { name, schema, label := lastGiven Step.label? steps }
  distinct := ((lastGiven Step.selection? steps).getD (false, [.star])).1
  columns := ((lastGiven Step.selection? steps).getD (false, [.star])).2
  joins := steps.filterMap Step.joined?
  filter := conjunction (steps.filterMap Step.predicate?)
  group := lastGiven Step.group? steps
  order := (lastGiven Step.order? steps).getD []
  limit := (lastGiven Step.limit? steps).getD none
  unions := steps.filterMap Step.united?

section Concat
variable (steps : List Step) (step : Step)

theorem filterMap_concat (given : Step → Option α) :
    (steps ++ [step]).filterMap given = steps.filterMap given ++ (given step).toList := by
  cases found : given step <;> simp [found]

theorem lastGiven_concat (given : Step → Option α) :
    lastGiven given (steps ++ [step]) = (given step).or (lastGiven given steps) := by
  cases found : given step <;> simp [lastGiven, found]

theorem conjunction_concat (predicates : List Expr) (predicate : Expr) :
    conjunction (predicates ++ [predicate]) =
      some ((conjunction predicates).elim predicate (conjoin · predicate)) := by
  cases predicates <;> simp [conjunction]

/-- A step adds to the history of its own clause and to no other. -/
theorem refine_ofHistories (name : String) (schema : Option String) :
    (ofHistories name schema steps).refine step = ofHistories name schema (steps ++ [step]) := by
  simp only [ofHistories, lastGiven_concat, filterMap_concat]
  cases step with
  | join kind target on =>
    cases found : target.filter <;>
      simp [refine, joinWith, found, Step.label?, Step.selection?, Step.joined?, Step.predicate?,
        Step.group?, Step.order?, Step.limit?, Step.united?]
  | restrict predicate =>
    simp only [Step.predicate?, Option.toList_some, conjunction_concat]
    cases found : conjunction (steps.filterMap Step.predicate?) <;>
      simp [refine, Query.restrict, Step.label?, Step.selection?, Step.joined?, Step.group?,
        Step.order?, Step.limit?, Step.united?]
  | _ =>
    simp [refine, select, selectDistinct, groupBy, orderBy, take, takeFrom, withoutLimit,
      union, labelled, Step.label?, Step.selection?, Step.joined?, Step.predicate?, Step.group?,
      Step.order?, Step.limit?, Step.united?]

end Concat

theorem build_eq_ofHistories (name : String) (schema : Option String) (steps : List Step) :
    build name schema steps = ofHistories name schema steps := by
  induction steps using List.reverseRecOn with
  | nil => rfl
  | append_singleton steps step ih =>
    rw [← refine_ofHistories, ← ih, build, List.foldl_append]
    rfl

/-- The steps on each clause come in the same order. -/
def SameHistories (steps other : List Step) : Prop :=
  ∀ part, steps.filter (·.part = part) = other.filter (·.part = part)

section SameHistories
variable {steps other : List Step}

theorem SameHistories.filterMap_eq (same : SameHistories steps other) (part : Part)
    {given : Step → Option α} (only : ∀ step, step.part ≠ part → given step = none) :
    steps.filterMap given = other.filterMap given := by
  have history (steps : List Step) :
      (steps.filter (·.part = part)).filterMap given = steps.filterMap given := by
    rw [List.filterMap_filter]
    refine List.filterMap_congr fun step _ => ?_
    by_cases own : step.part = part <;> simp [own, only]
  rw [← history, same part, history]

theorem SameHistories.ofHistories_eq (same : SameHistories steps other) (name : String)
    (schema : Option String) : ofHistories name schema steps = ofHistories name schema other := by
  have selection : steps.filterMap Step.selection? = other.filterMap Step.selection? :=
    same.filterMap_eq .selection fun step => by cases step <;> simp [Step.part, Step.selection?]
  have joins : steps.filterMap Step.joined? = other.filterMap Step.joined? :=
    same.filterMap_eq .joins fun step => by cases step <;> simp [Step.part, Step.joined?]
  have filter : steps.filterMap Step.predicate? = other.filterMap Step.predicate? :=
    same.filterMap_eq .filter fun step => by cases step <;> simp [Step.part, Step.predicate?]
  have group : steps.filterMap Step.group? = other.filterMap Step.group? :=
    same.filterMap_eq .group fun step => by cases step <;> simp [Step.part, Step.group?]
  have order : steps.filterMap Step.order? = other.filterMap Step.order? :=
    same.filterMap_eq .order fun step => by cases step <;> simp [Step.part, Step.order?]
  have limit : steps.filterMap Step.limit? = other.filterMap Step.limit? :=
    same.filterMap_eq .limit fun step => by cases step <;> simp [Step.part, Step.limit?]
  have unions : steps.filterMap Step.united? = other.filterMap Step.united? :=
    same.filterMap_eq .unions fun step => by cases step <;> simp [Step.part, Step.united?]
  have label : steps.filterMap Step.label? = other.filterMap Step.label? :=
    same.filterMap_eq .label fun step => by cases step <;> simp [Step.part, Step.label?]
  simp only [ofHistories, lastGiven, selection, joins, filter, group, order, limit, unions, label]

end SameHistories

/-- Every statement that a query can be compiled to, beside what else the statement takes. -/
def statements (q : Query) (onConflict : Option OnConflict) (setters : List Setter)
    (other : Query) :
    List Statement :=
  [.select q, .exists q, .command (.insert q onConflict setters), .command (.insertRows q other),
    .command (.insertRows other q), .command (.update q setters), .command (.delete q)]

/-- Queries at hand. A step is called on one of them and its result put beside them. -/
def call (queries : List Query) : Nat × Step → List Query
  | (i, step) => queries ++ (queries[i]?.map fun q => q.refine step).toList

end TypedSql.Query

namespace TypedSql

open Query (build ofHistories SameHistories statements call)

end TypedSql
