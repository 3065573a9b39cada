import TypedSql.Statement
import TypedSql.Proofs.Writing

namespace TypedSql

/-- The terms of a group and the condition on it. -/
def Group.expressions (g : Group) : List Expr :=
  g.terms ++ g.condition.toList

def Group.mapExprs (f : Expr → Expr) (g : Group) : Group :=
  { terms := g.terms.map f, condition := g.condition.map f }

namespace Query

mutual

/-- The expressions in the text of the query. A join target has its part in the
condition of the join; its own clauses are not written. -/
def expressions : Query → List Expr
  | ⟨_, _, columns, joins, filter, group, order, _, unions⟩ =>
    columns ++ joins.map Join.condition ++ filter.toList ++
      group.toList.flatMap Group.expressions ++
      order ++ unionExpressions unions

def unionExpressions : List Query → List Expr
  | [] => []
  | q :: rest => q.expressions ++ unionExpressions rest

end

mutual

/-- The query with another expression in place of each one. -/
def mapExprs (f : Expr → Expr) : Query → Query
  | ⟨table, distinct, columns, joins, filter, group, order, limit, unions⟩ =>
    ⟨table, distinct, columns.map f,
    joins.map fun join => { join with condition := f join.condition }, filter.map f,
      group.map (Group.mapExprs f), order.map f, limit, mapUnions f unions⟩

def mapUnions (f : Expr → Expr) : List Query → List Query
  | [] => []
  | q :: rest => q.mapExprs f :: mapUnions f rest

end

theorem unionExpressions_eq_flatMap (queries : List Query) :
    unionExpressions queries = queries.flatMap expressions := by
  induction queries with
  | nil => simp [unionExpressions]
  | cons q rest ih => simp [unionExpressions, ih]

theorem mapUnions_eq_map (f : Expr → Expr) (queries : List Query) :
    mapUnions f queries = queries.map (mapExprs f) := by
  induction queries with
  | nil => simp [mapUnions]
  | cons q rest ih => simp [mapUnions, ih]

theorem expressions_eq (q : Query) :
    q.expressions = q.columns ++ q.joins.map Join.condition ++ q.filter.toList ++
      q.group.toList.flatMap Group.expressions ++ q.order ++ q.unions.flatMap expressions := by
  cases q
  rw [expressions, unionExpressions_eq_flatMap]

theorem mapExprs_eq (f : Expr → Expr) (q : Query) :
    q.mapExprs f = { q with
      columns := q.columns.map f
      joins := q.joins.map fun join => { join with condition := f join.condition }
      filter := q.filter.map f
      group := q.group.map (Group.mapExprs f)
      order := q.order.map f
      unions := q.unions.map (mapExprs f) } := by
  cases q
  rw [mapExprs, mapUnions_eq_map]

mutual

/-- The names of the tables in the text of the query. -/
def names : Query → List String
  | ⟨table, _, _, joins, _, _, _, _, unions⟩ =>
    table.names ++ joins.flatMap (fun join => join.target.table.names) ++ unionNames unions

def unionNames : List Query → List String
  | [] => []
  | q :: rest => q.names ++ unionNames rest

end

theorem unionNames_eq_flatMap (queries : List Query) :
    unionNames queries = queries.flatMap names := by
  induction queries with
  | nil => simp [unionNames]
  | cons q rest ih => simp [unionNames, ih]

theorem names_eq (q : Query) :
    q.names = q.table.names ++ q.joins.flatMap (fun join => join.target.table.names) ++
      q.unions.flatMap names := by
  cases q
  rw [names, unionNames_eq_flatMap]

section Congruent
variable {R : Fragment → Fragment → Prop} {f : Expr → Expr} (congruent : Fragment.Congruent R)
include congruent

theorem congruent_list {items : List Expr} (each : ∀ e ∈ items, R e.fragment (f e).fragment) :
    R (Expr.list items) (Expr.list (items.map f)) := by
  refine congruent.join (congruent.text (by decide)) ?_
  rw [List.map_map, List.forall₂_map_left_iff, List.forall₂_map_right_iff, List.forall₂_same]
  exact each

variable {q : Query}

theorem congruent_selectClause
    (named : ∀ name ∈ q.table.names, R (.identifier name) (.identifier name))
    (each : ∀ e ∈ q.columns, R e.fragment (f e).fragment) :
    R q.selectClause (q.mapExprs f).selectClause := by
  have word : R (keyword (if q.distinct then "SELECT DISTINCT" else "SELECT"))
      (keyword (if q.distinct then "SELECT DISTINCT" else "SELECT")) := by
    cases q.distinct <;> exact congruent.text (by decide)
  have source : R (keyword "FROM") (keyword "FROM") := congruent.text (by decide)
  have table := TableRef.congruent_declaration congruent named
  rw [mapExprs_eq]
  exact congruent.clauses
    (.cons word (.cons (congruent_list congruent each) (.cons source (.cons table .nil))))

theorem congruent_joinClause?
    (named : ∀ join ∈ q.joins, ∀ name ∈ join.target.table.names,
    R (.identifier name) (.identifier name))
    (each : ∀ join ∈ q.joins, R join.condition.fragment (f join.condition).fragment) :
    Option.Rel R q.joinClause? (q.mapExprs f).joinClause? := by
  have one (join : Join Query) (member : join ∈ q.joins) :
      R (.clauses [keyword (join.kind.keyword ++ " JOIN"), join.target.table.declaration,
          keyword "ON", join.condition.fragment])
        (.clauses [keyword (join.kind.keyword ++ " JOIN"), join.target.table.declaration,
          keyword "ON", (f join.condition).fragment]) := by
    have kind : R (keyword (join.kind.keyword ++ " JOIN"))
        (keyword (join.kind.keyword ++ " JOIN")) := by
      cases join.kind <;> exact congruent.text (by decide)
    have table := TableRef.congruent_declaration congruent (named join member)
    have on : R (keyword "ON") (keyword "ON") := congruent.text (by decide)
    exact congruent.clauses (.cons kind (.cons table (.cons on (.cons (each join member) .nil))))
  simp only [joinClause?, mapExprs_eq, List.isEmpty_map, List.map_map]
  split
  · exact .none
  · refine .some (congruent.clauses ?_)
    rw [List.forall₂_map_left_iff, List.forall₂_map_right_iff, List.forall₂_same]
    exact one

theorem congruent_whereClause? (each : ∀ e ∈ q.filter, R e.fragment (f e).fragment) :
    Option.Rel R q.whereClause? (q.mapExprs f).whereClause? := by
  have word : R (keyword "WHERE") (keyword "WHERE") := congruent.text (by decide)
  simp only [whereClause?, mapExprs_eq]
  cases found : q.filter with
  | none => exact .none
  | some filter => exact .some (congruent.clauses (.cons word (.cons (each filter found) .nil)))

theorem congruent_groupClause?
    (each : ∀ group ∈ q.group, ∀ e ∈ group.expressions, R e.fragment (f e).fragment) :
    Option.Rel R q.groupClause? (q.mapExprs f).groupClause? := by
  have word : R (keyword "GROUP BY") (keyword "GROUP BY") := congruent.text (by decide)
  have having : R (keyword "HAVING") (keyword "HAVING") := congruent.text (by decide)
  simp only [groupClause?, mapExprs_eq]
  cases found : q.group with
  | none => exact .none
  | some group =>
    obtain ⟨terms, condition⟩ := group
    obtain ⟨termsEach, conditionEach⟩ := List.forall_mem_append.1 (each _ found)
    have start := List.Forall₂.cons word (.cons (congruent_list congruent termsEach) .nil)
    refine .some (congruent.clauses ?_)
    cases condition with
    | none => exact start
    | some condition =>
      exact List.rel_append start (.cons having (.cons (conditionEach condition (by simp)) .nil))

theorem congruent_orderClause? (each : ∀ e ∈ q.order, R e.fragment (f e).fragment) :
    Option.Rel R q.orderClause? (q.mapExprs f).orderClause? := by
  have word : R (keyword "ORDER BY") (keyword "ORDER BY") := congruent.text (by decide)
  simp only [orderClause?, mapExprs_eq, List.isEmpty_map]
  split
  · exact .none
  · exact .some (congruent.clauses (.cons word (.cons (congruent_list congruent each) .nil)))

theorem congruent_limitClause? (f : Expr → Expr) (q : Query) :
    Option.Rel R q.limitClause? (q.mapExprs f).limitClause? := by
  simp only [limitClause?, mapExprs_eq]
  cases q.limit with
  | none => exact .none
  | some limit =>
    refine .some (congruent.text ?_)
    have number := Fragment.ordinary_natText limit.length
    have words : "LIMIT ".toList.all Text.isOrdinary ∧ " OFFSET ".toList.all Text.isOrdinary := by
      decide
    cases limit.offset with
    | none =>
      rw [String.append_empty, String.toList_append, List.all_append, words.1, number]
      rfl
    | some offset =>
      have offsetNumber := Fragment.ordinary_natText offset
      simp only [String.toList_append, List.all_append, words, number, offsetNumber, Bool.and_self]

theorem congruent_clauses {always results : List Fragment}
    {clauses? results? : List (Option Fragment)} (first : List.Forall₂ R always results)
    (each : List.Forall₂ (Option.Rel R) clauses? results?) :
    R (.clauses (always ++ clauses?.filterMap id)) (.clauses (results ++ results?.filterMap id)) :=
  congruent.clauses (List.rel_append first (List.rel_filterMap (fun _ _ related => related) each))

theorem congruent_assemble {arms results : List Fragment} (armsEach : List.Forall₂ R arms results)
    (named : ∀ name ∈ q.names, R (.identifier name) (.identifier name))
    (each : ∀ e ∈ q.expressions, R e.fragment (f e).fragment) :
    R (q.assemble arms) ((q.mapExprs f).assemble results) := by
  rw [expressions_eq] at each
  rw [names_eq] at named
  simp only [List.forall_mem_append, List.forall_mem_map, List.forall_mem_flatMap,
    Option.mem_toList] at each named
  obtain ⟨⟨⟨⟨⟨columns, joins⟩, filter⟩, group⟩, order⟩, _⟩ := each
  obtain ⟨⟨table, targets⟩, _⟩ := named
  have unions : Option.Rel R (if arms.isEmpty then none else some (.clauses arms))
      (if results.isEmpty then none else some (.clauses results)) := by
    cases armsEach with
    | nil => exact .none
    | cons arm rest => exact .some (congruent.clauses (.cons arm rest))
  have clauses := List.Forall₂.cons (.some (congruent_selectClause congruent table columns))
    (.cons (congruent_joinClause? congruent targets joins)
      (.cons (congruent_whereClause? congruent filter)
    (.cons (congruent_groupClause? congruent group) (.cons unions
    (.cons (congruent_orderClause? congruent order)
    (.cons (congruent_limitClause? congruent f q) .nil))))))
  exact congruent_clauses congruent .nil clauses

mutual

theorem congruent_mapExprs :
    (q : Query) → (∀ name ∈ q.names, R (.identifier name) (.identifier name)) →
    (∀ e ∈ q.expressions, R e.fragment (f e).fragment) → R q.fragment (q.mapExprs f).fragment
  | ⟨table, distinct, columns, joins, filter, group, order, limit, unions⟩, named, each => by
    have inside : ∀ e ∈ unionExpressions unions, R e.fragment (f e).fragment :=
      (List.forall_mem_append.1 each).2
    have insideNamed : ∀ name ∈ unionNames unions, R (.identifier name) (.identifier name) :=
      (List.forall_mem_append.1 named).2
    have arms := congruent_unionArms unions insideNamed inside
    rw [mapExprs, fragment, fragment, ← mapExprs]
    exact congruent_assemble congruent arms named each

theorem congruent_unionArms : (queries : List Query) →
    (∀ name ∈ unionNames queries, R (.identifier name) (.identifier name)) →
    (∀ e ∈ unionExpressions queries, R e.fragment (f e).fragment) →
      List.Forall₂ R (unionArms queries) (unionArms (mapUnions f queries))
  | [], _, _ => .nil
  | q :: rest, named, each => by
    obtain ⟨first, others⟩ := List.forall_mem_append.1 each
    obtain ⟨firstNamed, othersNamed⟩ := List.forall_mem_append.1 named
    have word : R (keyword "UNION") (keyword "UNION") := congruent.text (by decide)
    rw [mapUnions, unionArms, unionArms]
    exact .cons
      (congruent.clauses (.cons word (.cons (congruent_mapExprs q firstNamed first) .nil)))
      (congruent_unionArms rest othersNamed others)

end

end Congruent

end Query

open Query (keyword)

def Setter.expressions (s : Setter) : List Expr :=
  [s.column, s.value]

def Setter.mapExprs (f : Expr → Expr) (s : Setter) : Setter :=
  ⟨f s.column, f s.value⟩

namespace Command

/-- The expressions in the text of the command: what is set, and the clauses that come
from the target. -/
def expressions : Command → List Expr
  | insert target _ setters => setters.flatMap Setter.expressions ++ target.filter.toList
  | insertRows _ source => source.expressions
  | update target setters =>
    setters.flatMap Setter.expressions ++ (target.filter.toList ++ target.order)
  | delete target => target.filter.toList ++ target.order

def mapExprs (f : Expr → Expr) : Command → Command
  | insert target onConflict setters =>
    .insert (target.mapExprs f) onConflict (setters.map (Setter.mapExprs f))
  | insertRows target source => .insertRows (target.mapExprs f) (source.mapExprs f)
  | update target setters => .update (target.mapExprs f) (setters.map (Setter.mapExprs f))
  | delete target => .delete (target.mapExprs f)

/-- The names of the tables in the text of the command. -/
def names : Command → List String
  | insert target _ _ | update target _ | delete target => target.table.names
  | insertRows target source => target.table.names ++ source.names

section Congruent
variable {R : Fragment → Fragment → Prop} {f : Expr → Expr} (congruent : Fragment.Congruent R)
include congruent

private theorem congruent_filtered {target : Query}
    (each : ∀ e ∈ target.filter.toList ++ target.order, R e.fragment (f e).fragment) :
    List.Forall₂ (Option.Rel R) [target.whereClause?, target.orderClause?, target.limitClause?]
      [(target.mapExprs f).whereClause?, (target.mapExprs f).orderClause?,
        (target.mapExprs f).limitClause?] := by
  obtain ⟨filter, order⟩ := List.forall_mem_append.1 each
  exact .cons
    (Query.congruent_whereClause? congruent fun e found => filter e (by simpa using found))
    (.cons (Query.congruent_orderClause? congruent order)
      (.cons (Query.congruent_limitClause? congruent f target) .nil))

omit congruent in
private theorem forall_toList :
    {clause? result? : Option Fragment} → Option.Rel R clause? result? →
      List.Forall₂ R clause?.toList result?.toList
  | _, _, .none => .nil
  | _, _, .some same => .cons same .nil

private theorem congruent_target {target : Query}
    (named : ∀ name ∈ target.table.names, R (.identifier name) (.identifier name))
    (f : Expr → Expr) :
    R target.table.reference (target.mapExprs f).table.reference := by
  rw [Query.mapExprs_eq]
  exact TableRef.congruent_reference congruent named

omit congruent in
private theorem forall_setters {P : Expr → Prop} {setters : List Setter}
    (each : ∀ e ∈ setters.flatMap Setter.expressions, P e) :
    (∀ s ∈ setters, P s.column) ∧ ∀ s ∈ setters, P s.value := by
  simp only [List.forall_mem_flatMap, Setter.expressions, List.forall_mem_cons] at each
  exact ⟨fun s member => (each s member).1, fun s member => (each s member).2.1⟩

private theorem congruent_assignments {setters : List Setter}
    (each : ∀ e ∈ setters.flatMap Setter.expressions, R e.fragment (f e).fragment) :
    List.Forall₂ R (setters.map Setter.assignment)
      ((setters.map (Setter.mapExprs f)).map Setter.assignment) := by
  obtain ⟨columns, values⟩ := forall_setters each
  rw [List.map_map, List.forall₂_map_left_iff, List.forall₂_map_right_iff, List.forall₂_same]
  intro s member
  exact congruent.join (congruent.text (by decide))
    (.cons (columns s member) (.cons (values s member) .nil))

private theorem congruent_rowClauses {target : Query} {setters : List Setter}
    (each : ∀ e ∈ setters.flatMap Setter.expressions ++ target.filter.toList,
    R e.fragment (f e).fragment) :
    List.Forall₂ R (rowClauses target setters)
      (rowClauses (target.mapExprs f) (setters.map (Setter.mapExprs f))) := by
  obtain ⟨settersEach, filter⟩ := List.forall_mem_append.1 each
  cases setters with
  | nil => exact .cons (congruent.text (by decide)) .nil
  | cons s rest =>
    obtain ⟨columns, values⟩ := forall_setters settersEach
    have nothing : R (.ofText "") (.ofText "") := congruent.text (by decide)
    have word : R (keyword "VALUES") (keyword "VALUES") := congruent.text (by decide)
    have names :=
      congruent.wrap nothing (Query.congruent_list congruent (List.forall_mem_map.2 columns))
    have contents :=
      congruent.wrap nothing (Query.congruent_list congruent (List.forall_mem_map.2 values))
    have row := List.Forall₂.cons names (.cons word (.cons contents .nil))
    have condition :=
      Query.congruent_whereClause? congruent fun e found => filter e (by simpa using found)
    simp only [List.map_map] at row
    exact List.rel_append (by simpa [Function.comp_def, Setter.mapExprs] using row)
      (forall_toList condition)

theorem congruent_mapExprs : (command : Command) →
    (∀ name ∈ command.names, R (.identifier name) (.identifier name)) →
    (∀ e ∈ command.expressions, R e.fragment (f e).fragment) →
    R command.fragment (command.mapExprs f).fragment
  | insert target onConflict setters, named, each => by
    have insertWord : R (keyword "INSERT") (keyword "INSERT") := congruent.text (by decide)
    have intoWord : R (keyword "INTO") (keyword "INTO") := congruent.text (by decide)
    have conflict :
        List.Forall₂ R (conflictClause? onConflict).toList (conflictClause? onConflict).toList := by
      cases onConflict with
      | none => exact .nil
      | some resolution => cases resolution <;> exact .cons (congruent.text (by decide)) .nil
    have start := List.rel_append (.cons insertWord .nil) conflict
    have table := List.Forall₂.cons intoWord (.cons (congruent_target congruent named f) .nil)
    exact congruent.clauses
      (List.rel_append (List.rel_append start table) (congruent_rowClauses congruent each))
  | insertRows target source, named, each => by
    obtain ⟨targetNamed, sourceNamed⟩ := List.forall_mem_append.1 named
    have words : R (keyword "INSERT INTO") (keyword "INSERT INTO") := congruent.text (by decide)
    exact congruent.clauses (.cons words (.cons (congruent_target congruent targetNamed f)
      (.cons (Query.congruent_mapExprs congruent source sourceNamed each) .nil)))
  | update target setters, named, each => by
    obtain ⟨settersEach, clauses⟩ := List.forall_mem_append.1 each
    have updateWord : R (keyword "UPDATE") (keyword "UPDATE") := congruent.text (by decide)
    have setWord : R (keyword "SET") (keyword "SET") := congruent.text (by decide)
    have comma : R (.ofText ", ") (.ofText ", ") := congruent.text (by decide)
    have assignments := congruent.join comma (congruent_assignments congruent settersEach)
    have start := List.Forall₂.cons updateWord (.cons (congruent_target congruent named f)
      (.cons setWord (.cons assignments .nil)))
    exact Query.congruent_clauses congruent start (congruent_filtered congruent clauses)
  | delete target, named, each => by
    have words : R (keyword "DELETE FROM") (keyword "DELETE FROM") := congruent.text (by decide)
    have start := List.Forall₂.cons words (.cons (congruent_target congruent named f) .nil)
    exact Query.congruent_clauses congruent start (congruent_filtered congruent each)

end Congruent

end Command

namespace Statement

def expressions : Statement → List Expr
  | .select query | .exists query => query.expressions
  | .command change => change.expressions

def mapExprs (f : Expr → Expr) : Statement → Statement
  | .select query => .select (query.mapExprs f)
  | .exists query => .exists (query.mapExprs f)
  | .command change => .command (change.mapExprs f)

/-- The names of the tables in the text of the statement. -/
def names : Statement → List String
  | .select query | .exists query => query.names
  | .command change => change.names

theorem congruent_mapExprs {R : Fragment → Fragment → Prop} {f : Expr → Expr}
    (congruent : Fragment.Congruent R) : (s : Statement) →
      (∀ name ∈ s.names, R (.identifier name) (.identifier name)) →
      (∀ e ∈ s.expressions, R e.fragment (f e).fragment) → R s.fragment (s.mapExprs f).fragment
  | .select query, named, each => query.congruent_mapExprs congruent named each
  | .exists query, named, each => by
    have word : R (keyword "SELECT") (keyword "SELECT") := congruent.text (by decide)
    have exists' : R (.ofText "EXISTS") (.ofText "EXISTS") := congruent.text (by decide)
    have inner := congruent.wrap exists' (query.congruent_mapExprs congruent named each)
    exact congruent.clauses (.cons word (.cons inner .nil))
  | .command change, named, each => change.congruent_mapExprs congruent named each

/-- Replacing every expression of a statement by one with its values written in writes exactly
the values that the statement binds. -/
theorem writesTo_mapExprs {write : Value → String} {f : Expr → Expr} (s : Statement)
    (each : ∀ e ∈ s.expressions, e.fragment.WritesTo write (f e).fragment) :
    s.fragment.WritesTo write (s.mapExprs f).fragment :=
  s.congruent_mapExprs (Fragment.WritesTo.congruent write)
    (fun name _ => .identifier write name) each

end Statement

end TypedSql
