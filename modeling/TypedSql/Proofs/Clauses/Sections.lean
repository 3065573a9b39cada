import TypedSql.Proofs.Clauses.Compound

namespace TypedSql.Query

open Clauses
open Fragment (Contained ofText)

/-- The query without unions, order and limit: a single arm. -/
def core (q : Query) : Query :=
  { q with order := [], limit := none, unions := [] }

/-- The terms that the query orders its rows by. -/
def orderTerms? (q : Query) : Option (List Lexeme) :=
  if q.order.isEmpty then none else some (Expr.list q.order).lexemes

mutual

/-- The clauses behind the first arm, in the order of the text. -/
def sections : Query → List (Clause × List Lexeme)
  | ⟨table, distinct, columns, joins, filter, group, order, limit, unions⟩ =>
    unionSections unions ++ Compound.closing
      (orderTerms? ⟨table, distinct, columns, joins, filter, group, order, limit, unions⟩) limit

def unionSections : List Query → List (Clause × List Lexeme)
  | [] => []
  | q :: rest => (.union, q.core.fragment.lexemes) :: (q.sections ++ unionSections rest)

end

theorem sections_eq (q : Query) :
    q.sections = unionSections q.unions ++ Compound.closing q.orderTerms? q.limit := by
  cases q
  rw [sections]

/-- The clauses of the first arm. -/
def coreClauses (q : Query) : List Fragment :=
  [some q.selectClause, q.joinClause?, q.whereClause?, q.groupClause?].filterMap id

def unionClause? (arms : List Fragment) : Option Fragment :=
  if arms.isEmpty then none else some (.clauses arms)

theorem assemble_eq (q : Query) (arms : List Fragment) :
    q.assemble arms = .clauses (q.coreClauses ++ ((unionClause? arms).toList ++
      (q.orderClause?.toList ++ q.limitClause?.toList))) := by
  simp only [assemble, coreClauses, unionClause?, Fragment.filterMap_id_cons, List.filterMap_nil,
    List.append_nil, List.append_assoc]

theorem core_fragment (q : Query) : q.core.fragment = .clauses q.coreClauses := by
  have alone : q.core.coreClauses = q.coreClauses := rfl
  rw [fragment_eq, assemble_eq, alone]
  exact congrArg Fragment.clauses (List.append_nil _)

section Contained
variable {q : Query}

theorem contained_list {items : List Expr} (each : ∀ e ∈ items, e.fragment.Contained) :
    (Expr.list items).Contained :=
  .list (List.forall_mem_map.2 each)

theorem contained_declaration (table : TableRef) : table.declaration.Contained := by
  unfold TableRef.declaration
  cases table.label with
  | none => exact .qualifiedName table
  | some label =>
    have word : (ofText "AS").Contained := by decide
    exact .clauses (by simp [Contained.qualifiedName, word, Contained.identifier])

theorem contained_coreClauses (each : ∀ e ∈ q.expressions, e.fragment.Contained) :
    ∀ part ∈ q.coreClauses, part.Contained := by
  rw [expressions_eq] at each
  simp only [List.forall_mem_append, List.forall_mem_map, List.forall_mem_flatMap,
    Option.mem_toList] at each
  obtain ⟨⟨⟨⟨⟨columns, joins⟩, filter⟩, group⟩, _⟩, _⟩ := each
  have select : q.selectClause.Contained := by
    have word : (ofText (if q.distinct then "SELECT DISTINCT" else "SELECT")).Contained := by
      cases q.distinct <;> decide
    have source : (ofText "FROM").Contained := by decide
    exact .clauses (by simp [keyword, word, source, contained_list columns, contained_declaration])
  have join : ∀ part ∈ q.joinClause?, part.Contained := by
    intro part found
    unfold joinClause? at found
    split_ifs at found
    · cases found
    obtain rfl := Option.some.inj found
    refine .clauses (List.forall_mem_map.2 fun join member => .clauses ?_)
    have kind : (ofText (join.kind.keyword ++ " JOIN")).Contained := by cases join.kind <;> decide
    have on : (ofText "ON").Contained := by decide
    simp [keyword, kind, on, joins join member, contained_declaration]
  have condition : ∀ part ∈ q.whereClause?, part.Contained := by
    intro part found
    obtain ⟨e, written, rfl⟩ := Option.map_eq_some_iff.1 found
    have word : (ofText "WHERE").Contained := by decide
    exact .clauses (by simp [keyword, word, filter e written])
  have groups : ∀ part ∈ q.groupClause?, part.Contained := by
    intro part found
    obtain ⟨g, written, rfl⟩ := Option.map_eq_some_iff.1 found
    obtain ⟨terms, having⟩ := List.forall_mem_append.1 (group g written)
    have words : (ofText "GROUP BY").Contained ∧ (ofText "HAVING").Contained := by decide
    refine .clauses ?_
    cases found : g.condition with
    | none => simp [keyword, words, contained_list terms]
    | some e => simp [keyword, words, contained_list terms, having e (by simp [found])]
  intro part member
  simp only [coreClauses, List.mem_filterMap, List.mem_cons, List.not_mem_nil, or_false, id_eq]
    at member
  obtain ⟨part?, rfl | rfl | rfl | rfl, found⟩ := member
  · exact Option.some.inj found ▸ select
  · exact join part found
  · exact condition part found
  · exact groups part found

theorem contained_core (each : ∀ e ∈ q.expressions, e.fragment.Contained) :
    q.core.fragment.Contained := by
  rw [core_fragment]
  exact .clauses (contained_coreClauses each)

theorem lexemes_core (each : ∀ e ∈ q.expressions, e.fragment.Contained) :
    q.core.fragment.lexemes = q.coreClauses.flatMap Fragment.lexemes := by
  have balanced part member := (contained_coreClauses each part member).toBalanced
  rw [core_fragment, Fragment.lexemes_clauses balanced]

theorem cut_orderClause? (each : ∀ e ∈ q.expressions, e.fragment.Contained) :
    (∀ part ∈ q.orderClause?, part.Balanced) ∧
      cut 0 (q.orderClause?.toList.flatMap Fragment.lexemes) =
        some ([], Compound.closing q.orderTerms? none) := by
  have order : ∀ e ∈ q.order, e.fragment.Contained := by
    rw [expressions_eq] at each
    simp only [List.forall_mem_append] at each
    exact each.1.2
  have list := contained_list order
  have words : (ofText "ORDER BY").Balanced := by decide
  have parts : ∀ part ∈ [keyword "ORDER BY", Expr.list q.order], part.Balanced := by
    simp [keyword, words, list.toBalanced]
  unfold orderClause? orderTerms?
  split_ifs with none
  · exact ⟨by simp, rfl⟩
  · refine ⟨fun part found => ?_, ?_⟩
    · obtain rfl := Option.some.inj found
      exact .clauses parts
    · have read : cut 0 (Compound.byWord :: (Expr.list q.order).lexemes) =
          some (Compound.byWord :: (Expr.list q.order).lexemes, []) := by
        have by' : level 0 [Compound.byWord] = some 0 := by decide
        exact cut_of_level (level_append by' list.enclosed)
      have begins : (Lexeme.word "ORDER".toList).clause? = some .order := by decide
      have text : (keyword "ORDER BY").lexemes = [.word "ORDER".toList, Compound.byWord] := by
        decide
      simp only [Option.toList_some, List.flatMap_cons, List.flatMap_nil, List.append_nil,
        Fragment.lexemes_clauses parts, text]
      exact cut_clause begins read

/-- The numbers behind the word LIMIT. -/
def bounds (limit : Limit) : List Fragment :=
  ofText (Text.natText limit.length) ::
    match limit.offset with
    | none => []
    | some offset => [ofText "OFFSET", ofText (Text.natText offset)]

theorem limitClause?_eq (q : Query) :
    q.limitClause? = q.limit.map fun limit => .clauses (ofText "LIMIT" :: bounds limit) := by
  unfold limitClause?
  rcases q.limit with _ | ⟨length, offset⟩
  · rfl
  · have same (text : String) (parts : List Fragment)
        (joined : text = (Fragment.clauses parts).template)
        (unbound : (Fragment.clauses parts).bindings = []) :
        keyword text = .clauses parts := by
      ext1
      · exact joined
      · exact unbound.symm
    refine congrArg some (same _ _ ?_ ?_) <;> cases offset <;>
      simp [bounds, Fragment.clauses, ← String.toList_inj]

theorem lexemes_bounds (limit : Limit) :
    (bounds limit).flatMap Fragment.lexemes = Compound.boundLexemes limit := by
  have word : (ofText "OFFSET").lexemes = [.word "OFFSET".toList] := by decide
  obtain ⟨length, offset⟩ := limit
  cases offset with
  | none => simp [bounds, lexemes_natText, Compound.boundLexemes]
  | some offset =>
    simp only [bounds, List.flatMap_cons, List.flatMap_nil, lexemes_natText, word,
      Compound.boundLexemes]
    rfl

theorem cut_limitClause? (q : Query) :
    (∀ part ∈ q.limitClause?, part.Balanced) ∧
      cut 0 (q.limitClause?.toList.flatMap Fragment.lexemes) =
        some ([], Compound.closing none q.limit) := by
  rw [limitClause?_eq]
  cases q.limit with
  | none => exact ⟨by simp, rfl⟩
  | some limit =>
    have parts : ∀ part ∈ ofText "LIMIT" :: bounds limit, part.Balanced := by
      have words : (ofText "LIMIT").Balanced ∧ (ofText "OFFSET").Balanced := by decide
      unfold bounds
      cases limit.offset <;> simp [words, Fragment.balanced_natText]
    have text : (ofText "LIMIT").lexemes = [.word "LIMIT".toList] := by decide
    have begins : (Lexeme.word "LIMIT".toList).clause? = some .limit := by decide
    constructor
    · intro part found
      obtain rfl := Option.some.inj found
      exact .clauses parts
    · simp only [Option.map_some, Option.toList_some, List.flatMap_cons, List.flatMap_nil,
        List.append_nil, Fragment.lexemes_clauses parts, text, lexemes_bounds]
      exact cut_clause begins (cut_of_level (Compound.level_boundLexemes limit))

theorem cut_assemble (each : ∀ e ∈ q.expressions, e.fragment.Contained) {arms : List Fragment}
    {others : List (Clause × List Lexeme)} (balanced : ∀ arm ∈ arms, arm.Balanced)
    (armsCut : cut 0 (arms.flatMap Fragment.lexemes) = some ([], others)) :
    (q.assemble arms).Balanced ∧ cut 0 (q.assemble arms).lexemes =
      some (q.core.fragment.lexemes, others ++ Compound.closing q.orderTerms? q.limit) := by
  obtain ⟨orderBalanced, orderCut⟩ := cut_orderClause? each
  obtain ⟨limitBalanced, limitCut⟩ := cut_limitClause? q
  obtain ⟨unionBalanced, unionText⟩ : (∀ part ∈ unionClause? arms, part.Balanced) ∧
      (unionClause? arms).toList.flatMap Fragment.lexemes = arms.flatMap Fragment.lexemes := by
    unfold unionClause?
    cases arms with
    | nil => exact ⟨by simp, rfl⟩
    | cons arm rest =>
      have whole := Fragment.Balanced.clauses balanced
      exact ⟨by simpa using whole, by simp [Fragment.lexemes_clauses balanced]⟩
  have parts : ∀ part ∈ q.coreClauses ++ ((unionClause? arms).toList ++
      (q.orderClause?.toList ++ q.limitClause?.toList)), part.Balanced := by
    simp only [List.forall_mem_append, Option.mem_toList]
    exact ⟨fun part member => (contained_coreClauses each part member).toBalanced,
      unionBalanced, orderBalanced, limitBalanced⟩
  have closing : Compound.closing q.orderTerms? q.limit =
      Compound.closing q.orderTerms? none ++ Compound.closing none q.limit := by
    simp [Compound.closing]
  rw [assemble_eq]
  refine ⟨.clauses parts, ?_⟩
  simp only [Fragment.lexemes_clauses parts, List.flatMap_append, unionText,
    ← lexemes_core each, closing]
  have core := cut_of_level (contained_core each).enclosed
  have whole := cut_append core (cut_append armsCut (cut_append orderCut limitCut))
  simpa only [List.nil_append] using whole

mutual

/-- The statement of a query is cut into its first arm and its clauses. -/
theorem cut_fragment : (q : Query) → (∀ e ∈ q.expressions, e.fragment.Contained) →
    q.fragment.Balanced ∧ cut 0 q.fragment.lexemes = some (q.core.fragment.lexemes, q.sections)
  | ⟨table, distinct, columns, joins, filter, group, order, limit, unions⟩, each => by
    obtain ⟨armsBalanced, armsCut⟩ := cut_unionArms unions (List.forall_mem_append.1 each).2
    rw [fragment, sections]
    exact cut_assemble each armsBalanced armsCut

theorem cut_unionArms : (queries : List Query) →
    (∀ e ∈ unionExpressions queries, e.fragment.Contained) →
      (∀ arm ∈ unionArms queries, arm.Balanced) ∧
        cut 0 ((unionArms queries).flatMap Fragment.lexemes) = some ([], unionSections queries)
  | [], _ => ⟨by simp [unionArms], rfl⟩
  | q :: rest, each => by
    obtain ⟨first, others⟩ := List.forall_mem_append.1 each
    obtain ⟨balanced, cutFirst⟩ := cut_fragment q first
    obtain ⟨restBalanced, cutRest⟩ := cut_unionArms rest others
    have word : (ofText "UNION").Balanced := by decide
    have parts : ∀ part ∈ [keyword "UNION", q.fragment], part.Balanced := by
      simp [keyword, word, balanced]
    have text : (keyword "UNION").lexemes = [.word "UNION".toList] := by decide
    have begins : (Lexeme.word "UNION".toList).clause? = some .union := by decide
    constructor
    · rw [unionArms, List.forall_mem_cons]
      exact ⟨.clauses parts, restBalanced⟩
    · have arm := cut_append (cut_clause begins cutFirst) cutRest
      simpa only [unionArms, unionSections, List.flatMap_cons, List.flatMap_nil, List.append_nil,
        Fragment.lexemes_clauses parts, text, List.cons_append, List.nil_append] using arm

end

end Contained

end TypedSql.Query
