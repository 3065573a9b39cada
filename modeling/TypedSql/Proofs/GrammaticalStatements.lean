import TypedSql.Proofs.Grammar.Commands
import TypedSql.Proofs.Grammar.Simple

namespace TypedSql

open Grammar
open Clauses (Lexeme)
open Fragment (ofText)
open Query (keyword)
open scoped Computability

namespace Query
variable {E : Expressions} {q : Query}

section Balanced
variable (formed : q.WellFormed E)
include formed

theorem WellFormed.balanced_selectClause : q.selectClause.Balanced := by
  have head : (keyword (if q.distinct then "SELECT DISTINCT" else "SELECT")).Balanced := by
    cases q.distinct <;> decide
  have source : (keyword "FROM").Balanced := by decide
  have columns : (Expr.list q.columns).Balanced :=
    .join (by decide) (List.forall_mem_map.2 fun e member => (formed.columns e member).toBalanced)
  exact .clauses (by simp [head, source, columns, (written_declaration q.table).toBalanced])

theorem WellFormed.balanced_groupClause? : ∀ f ∈ q.groupClause?, f.Balanced := by
  intro f found
  obtain ⟨g, grouped, rfl⟩ := Option.map_eq_some_iff.1 found
  obtain ⟨terms, condition⟩ := List.forall_mem_append.1 (formed.groups g grouped)
  have words : (keyword "GROUP BY").Balanced ∧ (keyword "HAVING").Balanced := by decide
  have list : (Expr.list g.terms).Balanced :=
    .join (by decide) (List.forall_mem_map.2 fun e member => (terms e member).toBalanced)
  refine .clauses ?_
  cases having : g.condition with
  | none => simp [words, list]
  | some e => simp [words, list, (condition e (by simp [having])).toBalanced]

theorem WellFormed.lexemes : q.fragment.lexemes = q.selectClause.lexemes ++
    (q.joinClause?.toList.flatMap Fragment.lexemes ++
    (q.whereClause?.toList.flatMap Fragment.lexemes ++
      (q.groupClause?.toList.flatMap Fragment.lexemes ++
      (q.orderClause?.toList.flatMap Fragment.lexemes ++
        q.limitClause?.toList.flatMap Fragment.lexemes)))) := by
  rw [fragment_alone formed.alone, Fragment.lexemes_clauses]
  · simp only [List.flatMap_cons, List.flatMap_append]
  · simp only [List.forall_mem_cons, List.forall_mem_append, Option.mem_toList]
    exact ⟨formed.balanced_selectClause, fun f found => (formed.joinClause? f found).toBalanced,
      fun f found => (formed.whereClause? f found).toBalanced, formed.balanced_groupClause?,
      fun f found => (formed.orderClause? f found).toBalanced,
      fun f found => (written_limitClause? E q f found).toBalanced⟩

end Balanced

/-- Without columns, FROM follows right behind SELECT, or DISTINCT. -/
theorem lexemes_selectClause_of_nil (empty : q.columns = []) : ∃ rest,
    q.selectClause.lexemes = .word "SELECT".toList ::
      ((if q.distinct then [.word "DISTINCT".toList] else []) ++ .word "FROM".toList :: rest) := by
  have head : (keyword (if q.distinct then "SELECT DISTINCT" else "SELECT")).Balanced ∧
      (keyword (if q.distinct then "SELECT DISTINCT" else "SELECT")).lexemes =
        .word "SELECT".toList :: if q.distinct then [.word "DISTINCT".toList] else [] := by
    cases q.distinct <;> decide
  have list : (Expr.list q.columns).Balanced ∧ (Expr.list q.columns).lexemes = [] := by
    rw [empty]
    decide
  have source : (keyword "FROM").Balanced ∧ (keyword "FROM").lexemes = [.word "FROM".toList] := by
    decide
  refine ⟨q.table.declaration.lexemes, ?_⟩
  rw [selectClause, Fragment.lexemes_clauses
    (by simp [head.1, list.1, source.1, (written_declaration q.table).toBalanced])]
  simp only [List.flatMap_cons, List.flatMap_nil, head.2, list.2, source.2, List.cons_append,
    List.nil_append, List.append_nil]

theorem WellFormed.columns_ne_nil (formed : q.WellFormed E)
    (member : q.fragment.lexemes ∈ E.select) :
    q.columns ≠ [] := by
  intro empty
  obtain ⟨l, d, x, rest, shape, distinct, notClause⟩ := Expressions.exists_column_of_select member
  have notDistinct := notClause "DISTINCT" (by simp)
  have notFrom := notClause "FROM" (by simp)
  obtain ⟨table, select⟩ := lexemes_selectClause_of_nil empty
  rw [formed.lexemes, select, List.cons_append, List.append_assoc] at shape
  obtain ⟨-, shape⟩ := List.cons.inj shape
  rcases mem_optional.1 distinct with rfl | ⟨other, known, w, rfl, found⟩
  · cases kind : q.distinct with
    | false =>
      rw [kind] at shape
      obtain ⟨rfl, -⟩ := List.cons.inj shape
      exact absurd notFrom (by decide)
    | true =>
      rw [kind] at shape
      obtain ⟨rfl, -⟩ := List.cons.inj shape
      exact absurd notDistinct (by decide)
  · cases kind : q.distinct with
    | false =>
      rw [kind] at shape
      obtain ⟨rfl, -⟩ := List.cons.inj shape
      simp only [List.mem_cons, List.not_mem_nil, or_false] at known
      rcases known with rfl | rfl <;> exact absurd found (by decide)
    | true =>
      rw [kind] at shape
      obtain ⟨-, behind⟩ := List.cons.inj shape
      obtain ⟨rfl, -⟩ := List.cons.inj behind
      exact absurd notFrom (by decide)

/-- What stands behind a group, if anything does, begins with a keyword. -/
def BeginsClause (m : List Lexeme) : Prop :=
  ∀ x ∈ m.head?, ∃ keyword ∈ ["HAVING", "ORDER", "LIMIT"], x.isWord keyword = true

theorem BeginsClause.append {a b : List Lexeme} (first : BeginsClause a) (second : BeginsClause b) :
    BeginsClause (a ++ b) := by
  cases a with
  | nil => exact second
  | cons x rest => exact first

theorem beginsClause_of_written {opening : String} (known : opening ∈ ["HAVING", "ORDER", "LIMIT"])
    {languages : List (Language Lexeme)} {clause : Option Fragment}
    (written : ∀ f ∈ clause, Written (word opening :: languages).prod f) :
    BeginsClause (clause.toList.flatMap Fragment.lexemes) := by
  cases clause with
  | none => simp [BeginsClause]
  | some f =>
    obtain ⟨l, rest, lexemes, opens⟩ := (written f rfl).begins
    rw [Option.toList_some, List.flatMap_singleton, lexemes]
    rintro _ ⟨⟩
    exact ⟨opening, known, opens⟩

theorem WellFormed.beginsClause (formed : q.WellFormed E) : BeginsClause
    (q.orderClause?.toList.flatMap Fragment.lexemes ++
    q.limitClause?.toList.flatMap Fragment.lexemes) := by
  have order : E.orderClause = [word "ORDER", word "BY", listed E.orderingTerm].prod := by
    simp only [Expressions.orderClause, List.prod_cons, mul_assoc]
  have begins := beginsClause_of_written (by simp) (order ▸ formed.orderClause?)
  exact begins.append (beginsClause_of_written (by simp) (written_limitClause? E q))

/-- Without terms, BY is followed by the next keyword, or by nothing. -/
theorem WellFormed.lexemes_groupClause? (formed : q.WellFormed E) {g : Group}
    (grouped : q.group = some g)
    (empty : g.terms = []) : ∃ rest, q.groupClause?.toList.flatMap Fragment.lexemes =
      .word "GROUP".toList :: .word "BY".toList :: rest ∧ BeginsClause rest := by
  have words : (keyword "GROUP BY").Balanced ∧
      (keyword "GROUP BY").lexemes = [.word "GROUP".toList, .word "BY".toList] := by decide
  have list : (Expr.list g.terms).Balanced ∧ (Expr.list g.terms).lexemes = [] := by
    rw [empty]
    decide
  have condition := (List.forall_mem_append.1 (formed.groups g grouped)).2
  rw [Query.groupClause?, grouped, Option.map_some, Option.toList_some, List.flatMap_singleton]
  cases having : g.condition with
  | none =>
    refine ⟨[], ?_, by simp [BeginsClause]⟩
    rw [List.append_nil, Fragment.lexemes_clauses (by simp [words.1, list.1])]
    simp [words.2, list.2]
  | some e =>
    have word : (keyword "HAVING").Balanced ∧
        (keyword "HAVING").lexemes = [.word "HAVING".toList] := by decide
    have written := condition e (by simp [having])
    refine ⟨.word "HAVING".toList :: e.fragment.lexemes, ?_, ?_⟩
    · rw [Fragment.lexemes_clauses (by simp [words.1, list.1, word.1, written.toBalanced])]
      simp [words.2, list.2, word.2]
    · rintro _ ⟨⟩
      exact ⟨"HAVING", by simp, by decide⟩

theorem WellFormed.terms_ne_nil (formed : q.WellFormed E) (member : q.fragment.lexemes ∈ E.select) :
    ∀ g ∈ q.group, g.terms ≠ [] := by
  intro g grouped empty
  obtain ⟨having, lexemes, begins⟩ := formed.lexemes_groupClause? grouped empty
  have opens : (Lexeme.word "GROUP".toList).isWord "GROUP" = true := by decide
  have select :=
    Expressions.skips_selection _ (formed.selectClause (formed.columns_ne_nil member)).belongs
  have joins := Expressions.skips_join.clause formed.joinClause?
  have filter := Expressions.skips_whereClause.clause formed.whereClause?
  have found : behind "GROUP" 0 q.fragment.lexemes = some (.word "BY".toList :: (having ++
      (q.orderClause?.toList.flatMap Fragment.lexemes ++
      q.limitClause?.toList.flatMap Fragment.lexemes))) := by
    rw [formed.lexemes, behind_append select, behind_append joins, behind_append filter, lexemes,
      List.cons_append, behind_word opens, List.cons_append]
  obtain ⟨l, x, more, same, notClause⟩ := Expressions.behind_group_of_select member found
  obtain ⟨rfl, rest⟩ := List.cons.inj same
  obtain ⟨keyword, known, clause⟩ := begins.append formed.beginsClause x (by rw [rest]; rfl)
  rw [notClause keyword known] at clause
  cases clause

end Query

namespace Command
variable {E : Expressions} {q : Query} {setters : List Setter}

theorem filter_eq_none (target : q.WellFormed E) (onConflict : Option OnConflict)
    (given : setters ≠ []) (formed : ∀ s ∈ setters, s.WellFormed E)
    (member : (insert q onConflict setters).fragment.lexemes ∈ E.insert) : q.filter = none := by
  refine Option.map_eq_none_iff.1 (?_ : q.whereClause? = none)
  cases found : q.whereClause? with
  | none => rfl
  | some f =>
    have clause := target.whereClause? f found
    obtain ⟨l, rest, lexemes, opens⟩ := clause.begins
    have row := sequence_rowParts q onConflict given formed
    have balanced :=
      List.forall_mem_append.2 ⟨row.balanced, List.forall_mem_singleton.2 clause.toBalanced⟩
    have front : Skips "WHERE" ((rowParts q onConflict setters).flatMap Fragment.lexemes) :=
      Expressions.skips_insert (E := E) _ row.belongs
    have absent := behind_skips (Expressions.skips_insert _ member)
    rw [fragment_insert_eq onConflict given, found, Option.toList_some,
      Fragment.lexemes_clauses balanced, List.flatMap_append, behind_append front,
      List.flatMap_singleton, lexemes, behind_word opens] at absent
    cases absent

end Command

/-- Rows of a joined table, filtered, grouped, ordered and limited. -/
def groupedSteps : List Query.Step :=
  [.select [.column "a"], .join .leftOuter (.ofTable "u") (.binary .eq (.column "a") (.column "b")),
    .restrict (.binary .eq (.column "a") (.bound (.int 1))),
    .groupBy [.column "a"] (some (.column "c")), .orderBy [.column "a"], .takeFrom 3 1]

theorem wellFormed_groupedSteps : ∀ step ∈ groupedSteps, step.WellFormed simple := by
  have column := written_simple_column
  have result : Written simple.resultColumn (Expr.column "a").fragment := by
    have bare : simple.forms ≤ simple.forms * optional (optional (word "AS") * name) :=
      le_mul_of_one_le_right' (one_le_optional _)
    exact (column "a").mono (bare.trans ((le_second _ _).trans (le_second _ _)))
  have term : Written simple.orderingTerm (Expr.column "a").fragment :=
    (column "a").mono (le_mul_of_one_le_right' (one_le_optional _))
  have condition := written_simple_equality (column "a") (column "b")
  have filter := written_simple_equality (column "a") (written_simple_bound (.int 1))
  simp [groupedSteps, Query.Step.WellFormed, result, condition, filter, column, term, Query.ofTable]

/-- For all expressions that are well-formed for their place, for every table and every
chain of steps without a union: UPDATE and DELETE are sentences of the grammar, SELECT is
one exactly with columns to select and terms to group by, and INSERT exactly where the
target has no filter. -/
theorem statement_grammatical_iff (E : Expressions) (name : String) (schema : Option String)
    {steps : List Query.Step} (formed : ∀ step ∈ steps, step.WellFormed E)
    (onConflict : Option OnConflict) {setters : List Setter} (given : setters ≠ [])
    (assigned : ∀ s ∈ setters, s.WellFormed E) :
    let q := Query.build name schema steps
    (q.fragment.lexemes ∈ E.select ↔ q.columns ≠ [] ∧ ∀ g ∈ q.group, g.terms ≠ []) ∧
    ((Command.insert q onConflict setters).fragment.lexemes ∈ E.insert ↔ q.filter = none) ∧
    (Command.update q setters).fragment.lexemes ∈ E.update ∧
      (Command.delete q).fragment.lexemes ∈ E.delete := by
  intro q
  have target : q.WellFormed E := .build formed
  refine ⟨⟨fun member => ?_, fun ⟨columns, groups⟩ => ?_⟩,
    ⟨fun member => ?_, fun everything => ?_⟩, ?_, ?_⟩
  · exact ⟨target.columns_ne_nil member, target.terms_ne_nil member⟩
  · exact (target.written columns groups).belongs
  · exact Command.filter_eq_none target onConflict given assigned member
  · exact (Command.written_insert everything onConflict given assigned).belongs
  · exact (Command.written_update target given assigned).belongs
  · exact (Command.written_delete target).belongs

/-- The query, the update and the deletion with these steps are sentences; the insertion
with the same filter is none. -/
theorem statement_grammatical_iff_grouped :
    let q := Query.build "t" none groupedSteps
    let setters : List Setter := [⟨.column "a", .bound (.int 1)⟩]
    q.fragment.lexemes ∈ simple.select ∧
      (Command.insert q none setters).fragment.lexemes ∉ simple.insert ∧
      (Command.update q setters).fragment.lexemes ∈ simple.update ∧
      (Command.delete q).fragment.lexemes ∈ simple.delete := by
  intro q setters
  have assigned : ∀ s ∈ setters, s.WellFormed simple :=
    List.forall_mem_singleton.2 ⟨⟨"a", rfl⟩, written_simple_bound (.int 1)⟩
  obtain ⟨select, insert, update, delete⟩ :=
    statement_grammatical_iff simple "t" none wellFormed_groupedSteps none
      (List.cons_ne_nil _ _) assigned
  refine ⟨select.2 ⟨List.cons_ne_nil _ _, ?_⟩, fun member => ?_, update, delete⟩
  · rintro g ⟨⟩
    exact List.cons_ne_nil _ _
  · cases insert.1 member

/-- A group without terms leaves its keyword with nothing behind it. Whatever the
expressions are, this is no statement. -/
theorem empty_group_is_no_statement :
    let q := Query.build "t" none [.groupBy [] none]
    q.fragment.template = "SELECT * FROM \"t\" GROUP BY " ∧
      ∀ E : Expressions, q.fragment.lexemes ∉ E.select := by
  intro q
  refine ⟨by decide, fun E member => ?_⟩
  have formed : q.WellFormed E :=
    .build (List.forall_mem_singleton.2 (by simp [Query.Step.WellFormed]))
  exact formed.terms_ne_nil member ⟨[], none⟩ rfl rfl

end TypedSql
