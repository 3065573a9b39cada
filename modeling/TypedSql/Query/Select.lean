import TypedSql.Query.Basic

namespace TypedSql.Query

/-- A word or phrase of the grammar. -/
def keyword (text : String) : Fragment :=
  { template := text }

def selectClause (q : Query) : Fragment :=
  .clauses [keyword (if q.distinct then "SELECT DISTINCT" else "SELECT"), Expr.list q.columns,
    keyword "FROM", q.table.declaration]

def joinClause? (q : Query) : Option Fragment :=
  if q.joins.isEmpty then none
  else some (.clauses (q.joins.map fun join =>
    .clauses [keyword (join.kind.keyword ++ " JOIN"), join.target.table.declaration,
      keyword "ON", join.condition.fragment]))

def whereClause? (q : Query) : Option Fragment :=
  q.filter.map fun filter => .clauses [keyword "WHERE", filter.fragment]

def groupClause? (q : Query) : Option Fragment :=
  q.group.map fun group =>
    .clauses ([keyword "GROUP BY", Expr.list group.terms] ++
      match group.condition with
      | none => []
      | some condition => [keyword "HAVING", condition.fragment])

def orderClause? (q : Query) : Option Fragment :=
  if q.order.isEmpty then none
  else some (.clauses [keyword "ORDER BY", Expr.list q.order])

def limitClause? (q : Query) : Option Fragment :=
  q.limit.map fun limit =>
    keyword ("LIMIT " ++ Text.natText limit.length ++
      match limit.offset with
      | none => ""
      | some offset => " OFFSET " ++ Text.natText offset)

/-- The clauses of a statement, given the arms of its unions. -/
def assemble (q : Query) (arms : List Fragment) : Fragment :=
  let unionClause? := if arms.isEmpty then none else some (.clauses arms)
  .clauses ([some q.selectClause, q.joinClause?, q.whereClause?, q.groupClause?, unionClause?,
    q.orderClause?, q.limitClause?].filterMap id)

mutual

/-- The SELECT statement of the query. -/
def fragment : Query → Fragment
  | ⟨table, distinct, columns, joins, filter, group, order, limit, unions⟩ =>
    assemble ⟨table, distinct, columns, joins, filter, group, order, limit, unions⟩
      (unionArms unions)

/-- Each further query behind the word UNION. -/
def unionArms : List Query → List Fragment
  | [] => []
  | q :: rest => .clauses [keyword "UNION", fragment q] :: unionArms rest

end

theorem unionArms_eq_map (queries : List Query) :
    unionArms queries = queries.map fun q => .clauses [keyword "UNION", q.fragment] := by
  induction queries with
  | nil => simp [unionArms]
  | cons q rest ih => simp [unionArms, ih]

theorem fragment_eq (q : Query) :
    q.fragment = q.assemble (q.unions.map fun arm => .clauses [keyword "UNION", arm.fragment]) := by
  cases q
  rw [fragment, unionArms_eq_map]

end TypedSql.Query
