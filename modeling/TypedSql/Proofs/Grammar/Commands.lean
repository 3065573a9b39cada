import TypedSql.Proofs.Grammar.Queries

namespace TypedSql

open Grammar
open Clauses (Lexeme)
open Fragment (ofText)
open Query (keyword)
open scoped Computability

/-- A plain column is set to a well-formed expression. -/
structure Setter.WellFormed (E : Expressions) (s : Setter) : Prop where
  plain : ∃ name, s.column = .column name
  value : Written E.forms s.value.fragment

namespace Query
variable {E : Expressions} {q : Query}

theorem fragment_alone (alone : q.unions = []) : q.fragment = .clauses (q.selectClause ::
    (q.joinClause?.toList ++ (q.whereClause?.toList ++ (q.groupClause?.toList ++
      (q.orderClause?.toList ++ q.limitClause?.toList))))) := by
  have core : q.coreClauses =
      q.selectClause ::
        (q.joinClause?.toList ++ (q.whereClause?.toList ++ q.groupClause?.toList)) := by
    simp only [coreClauses, Fragment.filterMap_id_cons, Option.toList_some, List.singleton_append,
      List.filterMap_nil, List.append_nil]
  rw [fragment_eq, alone, List.map_nil, assemble_eq, core]
  simp [unionClause?]

theorem WellFormed.written (formed : q.WellFormed E) (columns : q.columns ≠ [])
    (groups : ∀ g ∈ q.group, g.terms ≠ []) : Written E.select q.fragment := by
  have limit := Sequence.optional (written_limitClause? E q) .nil
  have order := Sequence.optional formed.orderClause? limit
  have group := Sequence.optional (formed.groupClause? groups) order
  have filter := Sequence.optional formed.whereClause? group
  have nothing : 1 ≤ E.join∗ :=
    fun m empty => (Language.mem_one m).1 empty ▸ Language.nil_mem_kstar E.join
  have joins := Sequence.clause nothing formed.joinClause? filter
  have whole := (Sequence.cons (formed.selectClause columns) joins).written
  rw [fragment_alone formed.alone]
  simpa [Expressions.select] using whole

end Query

namespace Command
variable {E : Expressions} {q : Query} {setters : List Setter}

theorem written_assignment {s : Setter} (formed : s.WellFormed E) :
    Written [name, mark '=', E.forms].prod s.assignment := by
  obtain ⟨column, plain⟩ := formed.plain
  have equals : (ofText " = ").lexemes = [.symbol '='] := by decide
  have target : s.column.fragment = .identifier column := by rw [plain]; rfl
  have parts : ∀ part ∈ [s.column.fragment, s.value.fragment], part.Balanced := by
    simp [target, (written_identifier column).toBalanced, formed.value.toBalanced]
  refine ⟨.join (by decide) parts, ?_⟩
  rw [Setter.assignment, Fragment.lexemes_join (by decide) parts, equals, target]
  have sign : [.symbol '='] ∈ mark '=' := rfl
  have value := Language.append_mem_mul sign formed.value.belongs
  simpa using Language.append_mem_mul (written_identifier column).belongs value

theorem written_conflictClause? (onConflict : Option OnConflict) :
    ∀ f ∈ conflictClause? onConflict, Written Expressions.onConflict f := by
  intro f found
  obtain ⟨resolution, _, rfl⟩ := Option.map_eq_some_iff.1 found
  have words : Written (["OR", resolution.keyword].map word).prod
      (ofText ("OR " ++ resolution.keyword)) := by
    apply written_words
    cases resolution <;> decide
  have known : resolution.keyword ∈ ["REPLACE", "ROLLBACK", "ABORT", "FAIL", "IGNORE"] := by
    cases resolution <;> simp [OnConflict.keyword]
  exact words.mono
    (by simpa [Expressions.onConflict] using mul_le_mul' le_rfl (word_le_oneOf known))

/-- The clauses of an insertion before the filter of the target. -/
def rowParts (target : Query) (onConflict : Option OnConflict) (setters : List Setter) :
    List Fragment :=
  keyword "INSERT" :: ((conflictClause? onConflict).toList ++
    [keyword "INTO", target.table.reference, .wrap "" (Expr.list (setters.map Setter.column)),
    keyword "VALUES", .wrap "" (Expr.list (setters.map Setter.value))])

theorem fragment_insert_eq (onConflict : Option OnConflict) (given : setters ≠ []) :
    (insert q onConflict setters).fragment =
      .clauses (rowParts q onConflict setters ++ q.whereClause?.toList) := by
  obtain ⟨first, rest, rfl⟩ := List.exists_cons_of_ne_nil given
  simp [fragment, rowClauses, rowParts]

theorem sequence_rowParts (q : Query) (onConflict : Option OnConflict) (given : setters ≠ [])
    (formed : ∀ s ∈ setters, s.WellFormed E) : Sequence (rowParts q onConflict setters)
      [word "INSERT", optional Expressions.onConflict, word "INTO", Expressions.source,
        optional (enclosed (listed name)), word "VALUES", listed (enclosed (listed E.forms))] := by
  have columns : Written (listed name) (Expr.list (setters.map Setter.column)) := by
    refine .listed (List.forall_mem_map.2 (List.forall_mem_map.2 fun s member => ?_))
      (by simpa using given)
    obtain ⟨column, plain⟩ := (formed s member).plain
    rw [plain]
    exact written_identifier column
  have values : Written (listed E.forms) (Expr.list (setters.map Setter.value)) :=
    .listed (List.forall_mem_map.2 (List.forall_mem_map.2 fun s member => (formed s member).value))
      (by simpa using given)
  have row : Written (listed (enclosed (listed E.forms)))
      (.wrap "" (Expr.list (setters.map Setter.value))) :=
    values.enclosed.mono (le_listed _)
  have word₁ : Written (word "INSERT") (ofText "INSERT") := written_word (by decide)
  have word₂ : Written (word "INTO") (ofText "INTO") := written_word (by decide)
  have word₃ : Written (word "VALUES") (ofText "VALUES") := written_word (by decide)
  have behindInto := Sequence.cons (written_reference q.table)
    (.cons (columns.enclosed.mono (le_optional _)) (.cons word₃ (.cons row .nil)))
  exact .cons word₁ (.optional (written_conflictClause? onConflict) (.cons word₂ behindInto))

theorem written_update (target : q.WellFormed E) (given : setters ≠ [])
    (formed : ∀ s ∈ setters, s.WellFormed E) : Written E.update (update q setters).fragment := by
  have assignments :
      Written (listed [name, mark '=', E.forms].prod)
      (.join ", " (setters.map Setter.assignment)) :=
    .listed (List.forall_mem_map.2 fun s member => written_assignment (formed s member))
      (by simpa using given)
  have word₁ : Written (word "UPDATE") (ofText "UPDATE") := written_word (by decide)
  have word₂ : Written (word "SET") (ofText "SET") := written_word (by decide)
  have limit := Sequence.optional (Query.written_limitClause? E q) .nil
  have order := Sequence.optional target.orderClause? limit
  have filter := Sequence.optional target.whereClause? order
  have head := Sequence.cons (written_reference q.table) (.cons word₂ (.cons assignments filter))
  have whole :=
    (Sequence.cons word₁ (.group .nil (one_le_optional Expressions.onConflict) head)).written
  simp only [fragment, Fragment.filterMap_id_cons, List.filterMap_nil]
  exact whole

theorem written_delete (target : q.WellFormed E) : Written E.delete (delete q).fragment := by
  have words : Written (word "DELETE" * word "FROM") (ofText "DELETE FROM") := by
    have words : Written (["DELETE", "FROM"].map word).prod (ofText "DELETE FROM") :=
      written_words (by decide)
    simpa using words
  have limit := Sequence.optional (Query.written_limitClause? E q) .nil
  have order := Sequence.optional target.orderClause? limit
  have filter := Sequence.optional target.whereClause? order
  have whole := (Sequence.cons words (.cons (written_reference q.table) filter)).written
  simp only [fragment, Fragment.filterMap_id_cons, List.filterMap_nil]
  exact whole

theorem written_insert (everything : q.filter = none) (onConflict : Option OnConflict)
    (given : setters ≠ [])
    (formed : ∀ s ∈ setters, s.WellFormed E) :
    Written E.insert (insert q onConflict setters).fragment := by
  have row : Written E.insert (.clauses (rowParts q onConflict setters)) :=
    (sequence_rowParts q onConflict given formed).written
  rw [fragment_insert_eq onConflict given, Query.whereClause?, everything]
  simpa only [Option.map_none, Option.toList_none, List.append_nil] using row

end Command

end TypedSql
