import TypedSql.Proofs.Grammar.Fragments
import TypedSql.Proofs.Steps

namespace TypedSql

open Grammar
open Clauses (Lexeme)
open Fragment (ofText)
open scoped Computability

namespace Grammar.Expressions
variable {E : Expressions}

theorem written_number (E : Expressions) (n : Nat) : Written E.forms (ofText (Text.natText n)) := by
  refine ⟨Fragment.balanced_natText n, ?_⟩
  rw [Clauses.lexemes_natText]
  exact E.number n

theorem written_conjoin {first second : Expr} (before : Written E.forms first.fragment)
    (behind : Written E.forms second.fragment) :
    Written E.forms (Query.conjoin first second).fragment := by
  have and : Fragment.Separates (" " ++ "AND" ++ " ") ∧
      (ofText (" " ++ "AND" ++ " ")).lexemes = [.word "AND".toList] := by decide
  obtain ⟨balanced, lexemes⟩ := lexemes_operation and.1 and.2 before.toBalanced behind.toBalanced
  refine ⟨balanced, ?_⟩
  rw [Query.conjoin, Expr.fragment, BinaryOp.symbol, lexemes]
  exact E.conjunction _ _ before.belongs behind.belongs

end Grammar.Expressions

namespace Query

/-- Each part of a query is well-formed for its place, and there are no unions. -/
structure WellFormed (E : Expressions) (q : Query) : Prop where
  columns : ∀ e ∈ q.columns, Written E.resultColumn e.fragment
  conditions : ∀ join ∈ q.joins, Written E.forms join.condition.fragment
  filter : ∀ e ∈ q.filter, Written E.forms e.fragment
  groups : ∀ g ∈ q.group, ∀ e ∈ g.expressions, Written E.forms e.fragment
  order : ∀ e ∈ q.order, Written E.orderingTerm e.fragment
  alone : q.unions = []

/-- What a step is given is well-formed for its place, and the step is no union. -/
def Step.WellFormed (E : Expressions) : Step → Prop
  | select columns | selectDistinct columns => ∀ e ∈ columns, Written E.resultColumn e.fragment
  | join _ target on => ∀ e ∈ on :: target.filter.toList, Written E.forms e.fragment
  | restrict predicate => Written E.forms predicate.fragment
  | groupBy terms condition => ∀ e ∈ terms ++ condition.toList, Written E.forms e.fragment
  | orderBy terms => ∀ e ∈ terms, Written E.orderingTerm e.fragment
  | union _ => False
  | take _ | takeFrom _ _ | withoutLimit | labelled _ => True

variable {E : Expressions} {q : Query}

/-- A well-formed step leaves a query well-formed. -/
theorem WellFormed.refine (formed : q.WellFormed E) {step : Step} (given : step.WellFormed E) :
    (q.refine step).WellFormed E := by
  cases step with
  | select columns | selectDistinct columns => exact { formed with columns := given }
  | join kind target on =>
    obtain ⟨condition, filter⟩ := List.forall_mem_cons.1 given
    refine { formed with conditions := List.forall_mem_append.2 ⟨formed.conditions, ?_⟩ }
    refine List.forall_mem_singleton.2 ?_
    cases found : target.filter with
    | none => exact condition
    | some e => exact Expressions.written_conjoin condition (filter e (by simp [found]))
  | restrict predicate =>
    refine { formed with filter := fun e same => ?_ }
    obtain rfl := Option.some.inj same
    cases found : q.filter with
    | none => exact given
    | some existing => exact Expressions.written_conjoin (formed.filter existing found) given
  | groupBy terms condition =>
    refine { formed with groups := fun g same => ?_ }
    obtain rfl := Option.some.inj same
    exact given
  | orderBy terms => exact { formed with order := given }
  | union other => exact given.elim
  | take | takeFrom | withoutLimit | labelled => exact { formed with }

theorem wellFormed_ofTable (E : Expressions) (name : String) (schema : Option String) :
    (ofTable name schema).WellFormed E where
  columns := by
    have star : Expr.star.fragment.Balanced ∧ Expr.star.fragment.lexemes = [.symbol '*'] := by
      decide
    have every : [.symbol '*'] ∈ E.resultColumn := (Language.mem_add _ _ _).2 (.inl rfl)
    exact List.forall_mem_singleton.2 ⟨star.1, star.2 ▸ every⟩
  conditions := by simp [ofTable]
  filter := by simp [ofTable]
  groups := by simp [ofTable]
  order := by simp [ofTable]
  alone := rfl

theorem WellFormed.build {name : String} {schema : Option String} {steps : List Step}
    (given : ∀ step ∈ steps, step.WellFormed E) : (build name schema steps).WellFormed E := by
  have run {q : Query} (formed : q.WellFormed E) : (steps.foldl Query.refine q).WellFormed E := by
    induction steps generalizing q with
    | nil => exact formed
    | cons step rest ih =>
      obtain ⟨first, others⟩ := List.forall_mem_cons.1 given
      exact ih others (formed.refine first)
  exact run (wellFormed_ofTable E name schema)

section Clauses
variable (formed : q.WellFormed E)
include formed

theorem WellFormed.selectClause (given : q.columns ≠ []) : Written E.selection q.selectClause := by
  have head : Written (word "SELECT" * optional (oneOf ["DISTINCT", "ALL"]))
      (keyword (if q.distinct then "SELECT DISTINCT" else "SELECT")) := by
    cases q.distinct with
    | false =>
      have select : Written (word "SELECT") (ofText "SELECT") := written_word (by decide)
      exact select.mono (le_mul_of_one_le_right' (one_le_optional _))
    | true =>
      have words : Written (["SELECT", "DISTINCT"].map word).prod (ofText "SELECT DISTINCT") :=
        written_words (by decide)
      have le : word "DISTINCT" ≤ optional (oneOf ["DISTINCT", "ALL"]) :=
        (word_le_oneOf (by simp)).trans (le_optional _)
      exact words.mono (by simpa using mul_le_mul' le_rfl le)
  have columns : Written (listed E.resultColumn) (Expr.list q.columns) :=
    .listed (List.forall_mem_map.2 formed.columns) (by simpa using given)
  have source : Written (word "FROM") (ofText "FROM") := written_word (by decide)
  exact (Sequence.cons head
    (.cons columns (.cons source (.cons (written_declaration q.table) .nil)))).written

omit formed in
theorem written_joinKind (kind : JoinKind) :
    Written ((oneOf ["CROSS", "INNER"] + word "LEFT" * optional (word "OUTER")) * word "JOIN")
      (keyword (kind.keyword ++ " JOIN")) := by
  have known {kind : String} (among : kind ∈ ["CROSS", "INNER"]) :
      word kind ≤ oneOf ["CROSS", "INNER"] + word "LEFT" * optional (word "OUTER") :=
    (word_le_oneOf among).trans (le_first _ _)
  cases kind with
  | cross =>
    have words : Written (["CROSS", "JOIN"].map word).prod (ofText "CROSS JOIN") :=
      written_words (by decide)
    exact words.mono (by simpa using mul_le_mul' (known (by simp)) le_rfl)
  | inner =>
    have words : Written (["INNER", "JOIN"].map word).prod (ofText "INNER JOIN") :=
      written_words (by decide)
    exact words.mono (by simpa using mul_le_mul' (known (by simp)) le_rfl)
  | leftOuter =>
    have words : Written (["LEFT", "OUTER", "JOIN"].map word).prod (ofText "LEFT OUTER JOIN") :=
      written_words (by decide)
    have outer : word "LEFT" * word "OUTER" ≤ word "LEFT" * optional (word "OUTER") :=
      mul_le_mul' le_rfl (le_optional _)
    have le := outer.trans (le_second (oneOf ["CROSS", "INNER"]) _)
    exact words.mono (by simpa [mul_assoc] using mul_le_mul' le (le_refl (word "JOIN")))

theorem WellFormed.joinClause? : ∀ f ∈ q.joinClause?, Written E.join∗ f := by
  intro f found
  unfold Query.joinClause? at found
  split at found
  · cases found
  obtain rfl := Option.some.inj found
  have each (join : Join Query) (member : join ∈ q.joins) : Written E.join (.clauses
      [keyword (join.kind.keyword ++ " JOIN"), join.target.table.declaration, keyword "ON",
        join.condition.fragment]) := by
    have on : Written (word "ON") (ofText "ON") := written_word (by decide)
    exact (Sequence.cons (written_joinKind join.kind) (.cons (written_declaration join.target.table)
      (.cons on (.cons (formed.conditions join member) .nil)))).written
  have balanced : ∀ part ∈ q.joins.map fun join => Fragment.clauses
      [keyword (join.kind.keyword ++ " JOIN"), join.target.table.declaration, keyword "ON",
        join.condition.fragment], part.Balanced :=
    List.forall_mem_map.2 fun join member => (each join member).toBalanced
  refine ⟨.clauses balanced, ?_⟩
  rw [Fragment.lexemes_clauses balanced, List.flatMap_map, List.flatMap_def]
  exact Language.join_mem_kstar
    (List.forall_mem_map.2 fun join member => (each join member).belongs)

theorem WellFormed.whereClause? : ∀ f ∈ q.whereClause?, Written E.whereClause f := by
  intro f found
  obtain ⟨e, given, rfl⟩ := Option.map_eq_some_iff.1 found
  have word : Written (word "WHERE") (ofText "WHERE") := written_word (by decide)
  exact (Sequence.cons word (.cons (formed.filter e given) .nil)).written

theorem WellFormed.groupClause? (given : ∀ g ∈ q.group, g.terms ≠ []) :
    ∀ f ∈ q.groupClause?, Written E.groupClause f := by
  intro f found
  obtain ⟨g, grouped, rfl⟩ := Option.map_eq_some_iff.1 found
  obtain ⟨terms, condition⟩ := List.forall_mem_append.1 (formed.groups g grouped)
  have words : Written (word "GROUP" * word "BY") (ofText "GROUP BY") := by
    have words : Written (["GROUP", "BY"].map word).prod (ofText "GROUP BY") :=
      written_words (by decide)
    simpa using words
  have list : Written (listed E.forms) (Expr.list g.terms) :=
    .listed (List.forall_mem_map.2 terms) (by simpa using given g grouped)
  cases having : g.condition with
  | none => exact (Sequence.cons words (.cons list (.group .nil (one_le_optional _) .nil))).written
  | some e =>
    have word : Written (word "HAVING") (ofText "HAVING") := written_word (by decide)
    have clause := Sequence.cons word (.cons (condition e (by simp [having])) .nil)
    exact (Sequence.cons words (.cons list (.group clause (le_optional _) .nil))).written

theorem WellFormed.orderClause? : ∀ f ∈ q.orderClause?, Written E.orderClause f := by
  intro f found
  unfold Query.orderClause? at found
  split at found
  · cases found
  rename_i given
  obtain rfl := Option.some.inj found
  have words : Written (word "ORDER" * word "BY") (ofText "ORDER BY") := by
    have words : Written (["ORDER", "BY"].map word).prod (ofText "ORDER BY") :=
      written_words (by decide)
    simpa using words
  have list : Written (listed E.orderingTerm) (Expr.list q.order) :=
    .listed (List.forall_mem_map.2 formed.order) (by simpa using given)
  exact (Sequence.cons words (.cons list .nil)).written

omit formed in
theorem written_limitClause? (E : Expressions) (q : Query) :
    ∀ f ∈ q.limitClause?, Written E.limitClause f := by
  intro f found
  rw [limitClause?_eq] at found
  obtain ⟨⟨length, offset⟩, _, rfl⟩ := Option.map_eq_some_iff.1 found
  have word : Written (word "LIMIT") (ofText "LIMIT") := written_word (by decide)
  have number := E.written_number
  cases offset with
  | none =>
    exact (Sequence.cons word
      (.cons (number length) (.group .nil (one_le_optional _) .nil))).written
  | some offset =>
    have word' : Written (Grammar.word "OFFSET") (ofText "OFFSET") := written_word (by decide)
    have clause := Sequence.cons word' (.cons (number offset) .nil)
    exact (Sequence.cons word (.cons (number length) (.group clause (le_optional _) .nil))).written

end Clauses

end Query

end TypedSql
