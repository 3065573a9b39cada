import TypedSql.Proofs.Clauses.Sections

namespace TypedSql

open Clauses
open Fragment (ofText)

/-- What a database makes of the parts of a compound. -/
structure Clauses.Meaning (α : Type) where
  /-- The rows of one arm. -/
  select : List Lexeme → List α
  /-- The rows among some, in the order that the database lists them in. -/
  distinct : List α → List α
  /-- Rows in the order of some terms. -/
  sorted : List Lexeme → List α → List α
  mem_distinct : ∀ row rows, row ∈ distinct rows ↔ row ∈ rows
  /-- The rows of a union are a set. -/
  distinct_congr : ∀ rows others,
    (∀ row, row ∈ rows ↔ row ∈ others) → distinct rows = distinct others

namespace Clauses.Meaning

variable {α : Type} (M : Meaning α)

/-- The rows of a union of several parts. -/
def union : List (List α) → List α
  | [rows] => rows
  | parts => M.distinct parts.flatten

/-- An order and a limit apply to all rows of a statement. -/
def arranged (order : Option (List Lexeme)) (limit : Option Limit) (rows : List α) : List α :=
  limited limit (match order with
    | none => rows
    | some terms => M.sorted terms rows)

def rows (c : Compound) : List α :=
  M.arranged c.order c.limit (M.union (c.arms.map M.select))

/-- The rows of a statement, if it can be read. -/
def answer (f : Fragment) : Option (List α) :=
  (Compound.read f.lexemes).map M.rows

theorem mem_union {parts : List (List α)} {row : α} :
    row ∈ M.union parts ↔ ∃ part ∈ parts, row ∈ part := by
  unfold union
  split
  · simp
  · rw [M.mem_distinct, List.mem_flatten]

theorem union_congr {part : List α} {parts others : List (List α)}
    (several : parts = [] ↔ others = [])
    (same : ∀ row, (∃ rows ∈ parts, row ∈ rows) ↔ ∃ rows ∈ others, row ∈ rows) :
    M.union (part :: parts) = M.union (part :: others) := by
  cases parts with
  | nil => rw [several.1 rfl]
  | cons first rest =>
    obtain ⟨second, behind, rfl⟩ : ∃ second behind, others = second :: behind :=
      List.exists_cons_of_ne_nil fun none => by simp [none] at several
    apply M.distinct_congr
    intro row
    have rests := same row
    simp only [List.mem_flatten, List.exists_mem_cons_iff] at rests ⊢
    rw [rests]

end Clauses.Meaning

namespace Query

/-- No order and no limit of its own, nor of any member. -/
inductive IsBare : Query → Prop where
  | mk {q : Query} (order : q.order = []) (limit : q.limit = none)
      (members : ∀ m ∈ q.unions, IsBare m) :
      IsBare q

/-- The arms in the statement of a bare query. -/
def arms (q : Query) : List (List Lexeme) :=
  q.core.fragment.lexemes :: q.sections.map Prod.snd

/-- The rows that a bare query has on its own. -/
def rowsOfArms (M : Meaning α) (q : Query) : List α :=
  M.union (q.arms.map M.select)

/-- The statement is read as the union of the query without order and limit and of its
members, each with its own, in the order and under the limit of the query. -/
def KeepsMemberClauses (q : Query) : Prop :=
  ∃ c, Compound.read q.fragment.lexemes = some c ∧ c.order = q.orderTerms? ∧ c.limit = q.limit ∧
    ∀ {α : Type} (M : Meaning α), ∃ own memberRows,
      M.answer q.core.fragment = some own ∧
      List.Forall₂ (fun m rows => M.answer m.fragment = some rows) q.unions memberRows ∧
      M.rows c = M.arranged q.orderTerms? q.limit (M.union (own :: memberRows))

theorem unionSections_eq_flatMap (queries : List Query) :
    unionSections queries =
      queries.flatMap fun q => (.union, q.core.fragment.lexemes) :: q.sections := by
  induction queries with
  | nil => simp [unionSections]
  | cons q rest ih => simp [unionSections, ih]

section Reading
variable {q : Query}

theorem select_core (each : ∀ e ∈ q.expressions, e.fragment.Contained) :
    q.core.fragment.lexemes.head?.any (Lexeme.isWord "SELECT") = true := by
  let word := keyword (if q.distinct then "SELECT DISTINCT" else "SELECT")
  obtain ⟨balanced, behind, text⟩ :
      word.Balanced ∧ ∃ behind, word.lexemes = .word "SELECT".toList :: behind := by
    unfold word
    cases q.distinct
    · exact ⟨by decide, _, rfl⟩
    · exact ⟨by decide, _, rfl⟩
  obtain ⟨rest, clauses⟩ : ∃ rest, q.coreClauses = q.selectClause :: rest := ⟨_, rfl⟩
  have space : Fragment.Separates " " := by decide
  have select : q.selectClause = word ++ (ofText " " ++ .clauses
      [Expr.list q.columns, keyword "FROM", q.table.declaration]) := Fragment.join_cons_cons ..
  have begins : Lexeme.isWord "SELECT" (.word "SELECT".toList) = true := by decide
  rw [lexemes_core each, clauses, List.flatMap_cons, select, space.lexemes_append balanced, text]
  exact begins

theorem expressions_of_member (each : ∀ e ∈ q.expressions, e.fragment.Contained) :
    ∀ m ∈ q.unions, ∀ e ∈ m.expressions, e.fragment.Contained := by
  rw [expressions_eq] at each
  simp only [List.forall_mem_append, List.forall_mem_flatMap] at each
  exact each.2

theorem IsBare.sections (bare : q.IsBare) (each : ∀ e ∈ q.expressions, e.fragment.Contained) :
    ∀ s ∈ q.sections, s.1 = .union ∧ s.2.head?.any (Lexeme.isWord "SELECT") = true := by
  induction bare with
  | @mk q order limit members ih =>
    intro s found
    have closing : Compound.closing q.orderTerms? q.limit = [] := by
      rw [limit, orderTerms?, if_pos (by simp [order])]
      rfl
    rw [sections_eq, closing, List.append_nil, unionSections_eq_flatMap, List.mem_flatMap] at found
    obtain ⟨m, member, inside⟩ := found
    have parts := expressions_of_member each m member
    rcases List.mem_cons.1 inside with rfl | behind
    · exact ⟨rfl, select_core parts⟩
    · exact ih m member parts s behind

theorem unionSections_of_bare {members : List Query} (bare : ∀ m ∈ members, m.IsBare)
    (each : ∀ m ∈ members, ∀ e ∈ m.expressions, e.fragment.Contained) :
    unionSections members = (members.flatMap arms).map (Clause.union, ·) := by
  have one (m : Query) (member : m ∈ members) :
      (Clause.union, m.core.fragment.lexemes) :: m.sections = m.arms.map (Clause.union, ·) := by
    have all := (bare m member).sections (each m member)
    have same : (m.sections.map Prod.snd).map (Clause.union, ·) = m.sections := by
      rw [List.map_map]
      refine (List.map_congr_left fun s found => ?_).trans (List.map_id _)
      exact Prod.ext (all s found).1.symm rfl
    rw [arms, List.map_cons, same]
  rw [unionSections_eq_flatMap, List.map_flatMap]
  exact List.flatMap_congr one

/-- Over bare members, the clauses of the whole are those of the query. -/
theorem read_of_bare (each : ∀ e ∈ q.expressions, e.fragment.Contained)
    (bare : ∀ m ∈ q.unions, m.IsBare) :
    Compound.read q.fragment.lexemes =
      some ⟨q.core.fragment.lexemes :: q.unions.flatMap arms, q.orderTerms?, q.limit⟩ := by
  have inside := expressions_of_member each
  have selects : ∀ arm ∈ q.core.fragment.lexemes :: q.unions.flatMap arms,
      arm.head?.any (Lexeme.isWord "SELECT") = true := by
    refine List.forall_mem_cons.2 ⟨select_core each, List.forall_mem_flatMap.2 fun m member => ?_⟩
    refine List.forall_mem_cons.2
      ⟨select_core (inside m member), List.forall_mem_map.2 fun s found => ?_⟩
    exact ((bare m member).sections (inside m member) s found).2
  rw [Compound.read, (cut_fragment q each).2, sections_eq, unionSections_of_bare bare inside]
  exact Compound.ofSections_unions _ _ selects

/-- A bare query answers the union of its arms. -/
theorem answer_of_bare (M : Meaning α) (each : ∀ e ∈ q.expressions, e.fragment.Contained)
    (bare : q.IsBare) :
    M.answer q.fragment = some (rowsOfArms M q) := by
  obtain ⟨order, limit, members⟩ := bare
  have unordered : q.orderTerms? = none := if_pos (by simp [order])
  have arms : q.core.fragment.lexemes :: q.unions.flatMap arms = q.arms := by
    rw [Query.arms, sections_eq, unordered, limit,
      unionSections_of_bare members (expressions_of_member each)]
    simp [Compound.closing, Function.comp_def]
  rw [Meaning.answer, read_of_bare each members, arms, unordered, limit]
  rfl

theorem answer_core (M : Meaning α) (each : ∀ e ∈ q.expressions, e.fragment.Contained) :
    M.answer q.core.fragment = some (M.select q.core.fragment.lexemes) := by
  have fewer : ∀ e ∈ q.core.expressions, e.fragment.Contained := by
    rw [expressions_eq] at each ⊢
    have own := (List.forall_mem_append.1 (List.forall_mem_append.1 each).1).1
    exact List.forall_mem_append.2
      ⟨List.forall_mem_append.2 ⟨own, by simp [core]⟩, by simp [core]⟩
  have alone : q.core.arms = [q.core.fragment.lexemes] := by
    rw [arms, sections_eq]
    rfl
  have bare : q.core.IsBare := .mk rfl rfl (by simp [core])
  rw [answer_of_bare M fewer bare, rowsOfArms, alone]
  rfl

end Reading

theorem union_arms (M : Meaning α) (own : List Lexeme) (members : List Query) :
    M.union ((own :: members.flatMap arms).map M.select) =
      M.union (M.select own :: members.map (rowsOfArms M)) := by
  apply M.union_congr
  · cases members with
    | nil => simp
    | cons m rest => simp [arms]
  · intro row
    simp only [List.mem_map, exists_exists_and_eq_and, List.mem_flatMap, rowsOfArms, M.mem_union]
    constructor
    · rintro ⟨arm, ⟨m, member, inside⟩, found⟩
      exact ⟨m, member, arm, inside, found⟩
    · rintro ⟨m, member, arm, inside, found⟩
      exact ⟨arm, ⟨m, member, inside⟩, found⟩

mutual

theorem isBare_of_sections : (q : Query) → (∀ s ∈ q.sections, s.1 = .union) → q.IsBare
  | ⟨table, distinct, columns, joins, filter, group, order, limit, unions⟩, all => by
    rw [sections] at all
    obtain ⟨members, closing⟩ := List.forall_mem_append.1 all
    obtain ⟨terms, bounds⟩ := List.forall_mem_append.1 closing
    refine .mk ?_ ?_ (isBare_of_unionSections unions members)
    · by_contra ordered
      have written : orderTerms?
        ⟨table, distinct, columns, joins, filter, group, order, limit, unions⟩ =
          some (Expr.list order).lexemes := if_neg (by simpa using ordered)
      rw [written] at terms
      cases terms _ (List.mem_singleton_self _)
    · cases limit with
      | none => rfl
      | some limit => cases bounds _ (List.mem_singleton_self _)

theorem isBare_of_unionSections :
    (queries : List Query) → (∀ s ∈ unionSections queries, s.1 = .union) →
    ∀ m ∈ queries, m.IsBare
  | [], _ => by simp
  | q :: rest, all => by
    obtain ⟨own, others⟩ := List.forall_mem_append.1 (List.forall_mem_cons.1 all).2
    exact List.forall_mem_cons.2 ⟨isBare_of_sections q own, isBare_of_unionSections rest others⟩

end

end Query

open Query in
/-- Under SQL's rule that the order and the limit behind a union belong to all of it, a query
keeps its own order and limit, and each member its own rows, exactly when no member has an
order or a limit of its own, nor a member of a member. -/
theorem union_keeps_member_clauses_iff (q : Query)
    (contained : ∀ e ∈ q.expressions, e.raws = [] ∨ e.fragment.Contained) :
    q.KeepsMemberClauses ↔ ∀ m ∈ q.unions, m.IsBare := by
  have each : ∀ e ∈ q.expressions, e.fragment.Contained := by
    intro e member
    rcases contained e member with free | closed
    · exact Expr.contained_fragment e free
    · exact closed
  constructor
  · rintro ⟨c, read, order, limit, -⟩
    rw [Compound.read, (cut_fragment q each).2] at read
    obtain ⟨orders, limits, others⟩ := Compound.countP_sections read
    obtain ⟨ownOrder, ownLimit⟩ := Compound.countP_closing q.orderTerms? q.limit
    simp only [sections_eq, List.countP_append, order, limit, ownOrder, ownLimit]
      at orders limits others
    apply isBare_of_unionSections
    intro s found
    have noOrder : (unionSections q.unions).countP (·.1 = .order) = 0 := by omega
    have noLimit : (unionSections q.unions).countP (·.1 = .limit) = 0 := by omega
    have noOther : (unionSections q.unions).countP (·.1 = .other) = 0 := by omega
    have unlike (clause : Clause) (none : (unionSections q.unions).countP (·.1 = clause) = 0) :
        s.1 ≠ clause := by
      simpa using List.countP_eq_zero.1 none s found
    cases clause : s.1 with
    | union => rfl
    | order => exact absurd clause (unlike .order noOrder)
    | limit => exact absurd clause (unlike .limit noLimit)
    | other => exact absurd clause (unlike .other noOther)
  · intro bare
    refine ⟨_, read_of_bare each bare, rfl, rfl, fun M => ?_⟩
    refine ⟨M.select q.core.fragment.lexemes, q.unions.map (rowsOfArms M),
      answer_core M each, ?_, ?_⟩
    · rw [List.forall₂_map_right_iff, List.forall₂_same]
      exact fun m member => answer_of_bare M (expressions_of_member each m member) (bare m member)
    · exact congrArg (M.arranged q.orderTerms? q.limit) (union_arms M _ q.unions)

/-- A member with a union of its own and a condition whose text has a limit in parentheses:
the order and the limit of the whole stay what they are. -/
theorem union_keeps_member_clauses_iff_nested :
    let condition : Fragment := ⟨"id IN (SELECT id FROM old ORDER BY id LIMIT ?)", [.int 9]⟩
    let posts := (Query.ofTable "posts").restrict (.raw condition)
    let q :=
      (((Query.ofTable "users").union (posts.union (.ofTable "drafts"))).orderBy
        [.column "name"]).take 3
    (∀ e ∈ q.expressions, e.raws = [] ∨ e.fragment.Contained) ∧ q.KeepsMemberClauses := by
  intro condition posts q
  have contained : ∀ e ∈ q.expressions, e.raws = [] ∨ e.fragment.Contained := by decide +kernel
  have drafts : (Query.ofTable "drafts").IsBare := .mk rfl rfl (List.forall_mem_nil _)
  have members : ∀ m ∈ q.unions, m.IsBare := by
    intro m member
    obtain rfl := List.mem_singleton.1 member
    exact .mk rfl rfl (List.forall_mem_singleton.2 drafts)
  exact ⟨contained, (union_keeps_member_clauses_iff q contained).2 members⟩

/-- The limit of a member is read as that of the whole, which has none. -/
theorem member_limit_limits_union :
    let q := (Query.ofTable "a").union ((Query.ofTable "b").take 1)
    q.limit = none ∧
      (Compound.read q.fragment.lexemes).map Compound.limit = some (some { length := 1 }) ∧
      ¬ q.KeepsMemberClauses := by
  intro q
  have read : (Compound.read q.fragment.lexemes).map Compound.limit =
      some (some { length := 1 }) := by
    decide +kernel
  refine ⟨rfl, read, ?_⟩
  rintro ⟨c, found, -, limit, -⟩
  rw [found, Option.map_some, limit] at read
  cases read

end TypedSql
