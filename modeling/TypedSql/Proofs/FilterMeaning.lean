import TypedSql.Proofs.ClauseHistories
import TypedSql.Proofs.RangeGrouping
import TypedSql.Proofs.Reading.Conjunction

namespace TypedSql

open Query (conjoin conjunction restrict joinClause? joinWith keyword)

namespace Truth

/-- Whether all of several truth values hold. -/
def all (truths : List Truth) : Truth :=
  truths.foldr and (some true)

theorem and_true (a : Truth) : a.and (some true) = a := by
  rcases a with _ | _ | _ <;> rfl

end Truth

namespace Expr

/-- A typed expression of a truth value. -/
def IsPredicate (e : Expr) : Prop :=
  ∃ t : SqlType, t.base = .bool ∧ e.Typed t

theorem IsPredicate.plain {e : Expr} (predicate : e.IsPredicate) : e.Plain := by
  obtain ⟨t, _, typed⟩ := predicate
  exact typed.plain

/-- What an expression counts as in logic, by its text. -/
def truth? (I : Interpretation) (e : Expr) : Option Truth :=
  (e.value? I).map I.truth

theorem Plain.exists_truth {e : Expr} (plain : e.Plain) (I : Interpretation) :
    ∃ a, e.truth? I = some a := by
  obtain ⟨v, value⟩ := plain.exists_value I
  exact ⟨I.truth v, by rw [truth?, value, Option.map_some]⟩

section Conjoined
variable {I : Interpretation} {first second : Expr} {a b : Truth}

theorem truth?_conjoin (plain : first.Plain) (plain' : second.Plain)
    (before : first.truth? I = some a)
    (behind : second.truth? I = some b) : (conjoin first second).truth? I = some (a.and b) := by
  obtain ⟨v, w, value, value', both⟩ := value?_and plain plain' I
  rw [truth?, value, Option.map_some] at before
  rw [truth?, value', Option.map_some] at behind
  rw [truth?, conjoin, both, Option.map_some, Interpretation.operate, Interpretation.truth_value,
    Option.some.inj before, Option.some.inj behind]

theorem truth?_foldl_conjoin {rest : List Expr} (plain : first.Plain) (each : ∀ p ∈ rest, p.Plain)
    (before : first.truth? I = some a) :
    ∃ truths, rest.mapM (truth? I) = some truths ∧
      (rest.foldl conjoin first).truth? I = some (a.and (Truth.all truths)) ∧
      (rest.foldl conjoin first).Plain := by
  induction rest generalizing first a with
  | nil =>
    exact ⟨[], rfl, by rw [List.foldl_nil, before, Truth.all, List.foldr_nil, Truth.and_true],
      plain⟩
  | cons second rest ih =>
    obtain ⟨plain', others⟩ := List.forall_mem_cons.1 each
    obtain ⟨b, behind⟩ := plain'.exists_truth I
    have both : (conjoin first second).Plain := .binary .and plain plain'
    obtain ⟨truths, values, whole, plain''⟩ :=
      ih both others (truth?_conjoin plain plain' before behind)
    refine ⟨b :: truths, ?_, ?_, plain''⟩
    · simp [List.mapM_cons, behind, values]
    · rw [List.foldl_cons, whole, Truth.and_assoc]
      rfl

end Conjoined

end Expr

theorem Query.filter_restrict (q : Query) (predicates : List Expr) :
    (predicates.foldl restrict q).filter = conjunction (q.filter.toList ++ predicates) := by
  induction predicates using List.reverseRecOn with
  | nil => cases found : q.filter <;> simp [found, conjunction]
  | append_singleton predicates predicate ih =>
    rw [List.foldl_append, ← List.append_assoc, Query.conjunction_concat, ← ih]
    cases found : (predicates.foldl restrict q).filter <;> simp [restrict, found]

/-- Restricting a query to several predicates, one after the other, restricts it to their
conjunction: in every row, the text behind WHERE has the truth value of all predicates,
each by its own text. Where the query is then joined, the text behind ON has that of the
condition and all predicates. -/
theorem filters_mean_their_conjunction (I : Interpretation) {q : Query}
    (unfiltered : q.filter = none) {predicates : List Expr} (given : predicates ≠ [])
    (each : ∀ p ∈ predicates, p.IsPredicate) :
    let target := predicates.foldl restrict q
    ∃ (filter : Expr) (truths : List Truth),
      target.whereClause? = some (.clauses [keyword "WHERE", filter.fragment]) ∧
      predicates.mapM (Expr.truth? I) = some truths ∧ filter.truth? I = some (Truth.all truths) ∧
      ∀ (base : Query) (kind : JoinKind) (on : Expr), on.IsPredicate →
        ∃ (condition : Expr) (a : Truth) (before : List Fragment),
          (base.joinWith kind target on).joinClause? = some (.clauses (before ++
            [.clauses [keyword (kind.keyword ++ " JOIN"), target.table.declaration, keyword "ON",
              condition.fragment]])) ∧
          on.truth? I = some a ∧ condition.truth? I = some (a.and (Truth.all truths)) := by
  intro target
  obtain ⟨first, rest, rfl⟩ := List.exists_cons_of_ne_nil given
  have found : target.filter = some (rest.foldl conjoin first) := by
    rw [Query.filter_restrict, unfiltered]
    rfl
  obtain ⟨predicate, others⟩ := List.forall_mem_cons.1 each
  obtain ⟨a, before⟩ := predicate.plain.exists_truth I
  obtain ⟨truths, values, whole, plain⟩ :=
    Expr.truth?_foldl_conjoin predicate.plain (fun p member => (others p member).plain) before
  refine ⟨rest.foldl conjoin first, a :: truths, ?_, ?_, whole, fun base kind on condition => ?_⟩
  · rw [Query.whereClause?, found, Option.map_some]
  · simp [List.mapM_cons, before, values]
  · obtain ⟨b, truth⟩ := condition.plain.exists_truth I
    have joined : ((base.joinWith kind target on).joins).isEmpty = false := by simp [joinWith]
    refine ⟨conjoin on (rest.foldl conjoin first), b, ?earlier, ?clause, truth, ?_⟩
    case clause =>
      rw [joinClause?, joined, if_neg Bool.false_ne_true, joinWith, found, List.map_append,
        List.map_singleton]
    · exact Expr.truth?_conjoin condition.plain plain truth whole

/-- A half-open range, a negation and a BETWEEN, none of them in parentheses, and a disjunction. -/
def unparenthesized : List Expr :=
  let n := Term.column (.required .int64) "n"
  let a := Term.column (.nullable .bool) "a"
  [(n.within (.halfOpen (1 : Int64) (5 : Int64))).expr, a.complement.expr,
    (n.between (2 : Int64) (3 : Int64)).expr, (a.or (.value true)).expr]

theorem isPredicate_unparenthesized : ∀ p ∈ unparenthesized, p.IsPredicate := by
  have n : (Expr.column "n").Typed (.required .int64) := .column "n"
  have a : (Expr.column "a").Typed (.nullable .bool) := .column "a"
  have range (interval : Interval (SqlType.required .int64).base.Host) :
      (Expr.within (.column "n") (interval.map (BaseType.encode .int64))).IsPredicate :=
    ⟨_, rfl, .within interval n⟩
  have negation : (Expr.unary .not (.column "a")).IsPredicate := ⟨_, rfl, .complement rfl a⟩
  have disjunction : (Expr.binary .or (.column "a") (.bound (.int 1))).IsPredicate :=
    ⟨.nullable .bool, rfl,
      .combination rfl (rfl : SqlType.base (.required .bool) = .bool) a (.bound (.int 1))⟩
  simp only [unparenthesized, List.forall_mem_cons]
  exact ⟨range _, negation, range _, disjunction, by simp⟩

theorem filters_mean_their_conjunction_unparenthesized :
    (∀ p ∈ unparenthesized, p.IsPredicate) ∧ ∃ (filter : Expr) (truths : List Truth),
      (unparenthesized.foldl restrict (.ofTable "t")).whereClause? =
        some (.clauses [keyword "WHERE", filter.fragment]) ∧
      unparenthesized.mapM (Expr.truth? (.uniform (.int 3))) = some truths ∧
      filter.truth? (.uniform (.int 3)) = some (Truth.all truths) := by
  have unfiltered : (Query.ofTable "t").filter = none := rfl
  obtain ⟨filter, truths, clause, values, whole, _⟩ :=
    filters_mean_their_conjunction (.uniform (.int 3))
    unfiltered (by simp [unparenthesized]) isPredicate_unparenthesized
  exact ⟨isPredicate_unparenthesized, filter, truths, clause, values, whole⟩

end TypedSql
