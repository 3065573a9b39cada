import TypedSql.Proofs.ListItems
import TypedSql.Proofs.ReadBack
import TypedSql.Statement

namespace TypedSql

theorem Setter.item_assignment {s : Setter} (column : s.column.fragment.Item)
    (value : s.value.fragment.Item) :
    s.assignment.Item :=
  .join (Fragment.uncut_of_level (by decide) (by decide)) column
    (List.forall_mem_singleton.2 value.uncut)

theorem Setter.template_assignment (s : Setter) :
    s.assignment.template = s.column.template ++ " = " ++ s.value.template := by
  simp [Setter.assignment, Expr.template]

@[simp] theorem TableRef.bindings_reference (table : TableRef) : table.reference.bindings = [] := by
  unfold TableRef.reference TableRef.qualifiedName
  cases table.label <;> cases table.schema <;> rfl

namespace Fragment

theorem template_join_cons (separator : String) (first : Fragment) (rest : List Fragment) :
    ∃ behind, (join separator (first :: rest)).template = first.template ++ behind := by
  cases rest with
  | nil => exact ⟨"", by simp⟩
  | cons second rest =>
    rw [join_cons_cons]
    exact ⟨_, rfl⟩

end Fragment

theorem Query.template_fragment (q : Query) : ∃ rest, q.fragment.template =
    (if q.distinct then "SELECT DISTINCT " else "SELECT ") ++ (Expr.list q.columns).template ++
      " FROM " ++ rest := by
  have select : q.selectClause.template = (if q.distinct then "SELECT DISTINCT " else "SELECT ") ++
      (Expr.list q.columns).template ++ " FROM " ++ q.table.declaration.template := by
    unfold selectClause
    cases q.distinct <;> simp [Fragment.clauses, keyword, String.append_assoc, ← String.toList_inj]
  obtain ⟨clauses, shape⟩ : ∃ clauses, q.fragment = .clauses (q.selectClause :: clauses) := by
    rw [q.fragment_eq]
    exact ⟨_, rfl⟩
  obtain ⟨behind, split⟩ := Fragment.template_join_cons " " q.selectClause clauses
  refine ⟨q.table.declaration.template ++ behind, ?_⟩
  rw [shape, Fragment.clauses, split, select, String.append_assoc]

namespace Command

variable {target : Query} {setters : List Setter}

theorem rowClauses_of_ne_nil (nonempty : setters ≠ []) :
    rowClauses target setters =
      [.wrap "" (Expr.list (setters.map Setter.column)), Query.keyword "VALUES",
        .wrap "" (Expr.list (setters.map Setter.value))] ++ target.whereClause?.toList := by
  cases setters with
  | nil => exact absurd rfl nonempty
  | cons first rest => rfl

/-- The columns and the values of a new row stand in parentheses of their own. -/
theorem template_insert (onConflict : Option OnConflict) (nonempty : setters ≠ []) :
    (insert target onConflict setters).fragment.template =
      "INSERT " ++ onConflict.elim "" (fun resolution => "OR " ++ resolution.keyword ++ " ") ++
        "INTO " ++ target.table.reference.template ++ " (" ++
        (Expr.list (setters.map Setter.column)).template ++
        ") VALUES (" ++ (Expr.list (setters.map Setter.value)).template ++ ")" ++
        target.filter.elim "" (fun filter => " WHERE " ++ filter.template) := by
  rw [fragment, rowClauses_of_ne_nil nonempty, Query.whereClause?, conflictClause?]
  cases onConflict <;> cases target.filter <;>
    simp [Fragment.clauses, Query.keyword, Expr.template, String.append_assoc, ← String.toList_inj]

theorem bindings_insert (onConflict : Option OnConflict) (nonempty : setters ≠ [])
    (unbound : ∀ s ∈ setters, s.column.fragment.bindings = []) :
    (insert target onConflict setters).fragment.bindings =
      setters.flatMap (·.value.fragment.bindings) ++
        target.filter.toList.flatMap (·.fragment.bindings) := by
  have columns : (Expr.list (setters.map Setter.column)).bindings = [] := by
    simpa [Expr.list, List.flatMap_eq_nil_iff] using unbound
  have values : (Expr.list (setters.map Setter.value)).bindings =
      setters.flatMap (·.value.fragment.bindings) := by
    simp [Expr.list, List.flatMap_map]
  rw [fragment, rowClauses_of_ne_nil nonempty, Query.whereClause?, conflictClause?]
  cases onConflict <;> cases target.filter <;>
    simp [Fragment.clauses, Query.keyword, columns, values]

theorem template_update (target : Query) (setters : List Setter) :
    ∃ rest, (update target setters).fragment.template =
      "UPDATE " ++ target.table.reference.template ++ " SET " ++
        (Fragment.join ", " (setters.map Setter.assignment)).template ++ rest := by
  obtain ⟨behind, split⟩ :=
    Fragment.template_join_cons " " (.join ", " (setters.map Setter.assignment))
    ([target.whereClause?, target.orderClause?, target.limitClause?].filterMap id)
  refine ⟨behind, ?_⟩
  rw [String.append_assoc, ← split]
  simp [fragment, Fragment.clauses, Query.keyword, String.append_assoc, ← String.toList_inj]

theorem bindings_update (target : Query)
    (unbound : ∀ s ∈ setters, s.column.fragment.bindings = []) :
    (update target setters).fragment.bindings =
      setters.flatMap (·.value.fragment.bindings) ++
        (target.filter.toList ++ target.order).flatMap (·.fragment.bindings) := by
  have assignments : (setters.map Setter.assignment).flatMap Fragment.bindings =
      setters.flatMap (·.value.fragment.bindings) := by
    rw [List.flatMap_map]
    refine List.flatMap_congr fun s member => ?_
    simp [Setter.assignment, unbound s member]
  have ordered : (target.orderClause?.toList).flatMap Fragment.bindings =
      target.order.flatMap (·.fragment.bindings) := by
    unfold Query.orderClause?
    cases target.order <;> simp [Fragment.clauses, Query.keyword, Expr.list, List.flatMap_map]
  have limited : target.limitClause?.toList.flatMap Fragment.bindings = [] := by
    unfold Query.limitClause?
    cases target.limit <;> simp [Query.keyword]
  have filtered : target.whereClause?.toList.flatMap Fragment.bindings =
      target.filter.toList.flatMap (·.fragment.bindings) := by
    unfold Query.whereClause?
    cases target.filter <;> simp [Fragment.clauses, Query.keyword]
  simp only [fragment, Fragment.filterMap_id_cons]
  simp [Fragment.clauses, Query.keyword, assignments, filtered, ordered, limited]

end Command

open Command (insert update)

/-- A selected list has one item for each expression, and the result one column, unless a
wildcard stands among them. A new row has its columns and its values in the order of the
setters, and a change has one assignment for each. -/
theorem list_items_stand_apart :
    (∀ q : Query, q.columns ≠ [] → (∀ e ∈ q.columns, e.raws = []) →
      let list := (Expr.list q.columns).template
      (∃ rest, q.fragment.template =
        (if q.distinct then "SELECT DISTINCT " else "SELECT ") ++ list ++ " FROM " ++ rest) ∧
      Text.items list = q.columns.map Expr.template ∧
      ((∀ e ∈ q.columns, e.isStarred = false) → ∀ {σ ρ : Type} (c : Connection σ ρ) (s : σ),
        (q.resolveColumns c).runFrom s = (.ok (.ofNames (Text.items list)), s))) ∧
    ∀ (target : Query) (setters : List Setter), setters ≠ [] →
      (∀ s ∈ setters, (∃ name, s.column = .column name) ∧ s.value.raws = []) →
      let values := setters.flatMap (·.value.fragment.bindings)
      (∀ onConflict : Option OnConflict,
        let columnList := (Expr.list (setters.map Setter.column)).template
        let valueList := (Expr.list (setters.map Setter.value)).template
        (insert target onConflict setters).fragment.template =
          "INSERT " ++ onConflict.elim "" (fun resolution => "OR " ++ resolution.keyword ++ " ") ++
            "INTO " ++ target.table.reference.template ++ " (" ++ columnList ++ ") VALUES (" ++
            valueList ++ ")" ++ target.filter.elim "" (fun filter => " WHERE " ++ filter.template) ∧
        Text.items columnList = setters.map (·.column.template) ∧
        Text.items valueList = setters.map (·.value.template) ∧
        (insert target onConflict setters).fragment.bindings =
          values ++ target.filter.toList.flatMap (·.fragment.bindings)) ∧
      let assignments := (Fragment.join ", " (setters.map Setter.assignment)).template
      (∃ rest, (update target setters).fragment.template =
          "UPDATE " ++ target.table.reference.template ++ " SET " ++ assignments ++ rest) ∧
      Text.items assignments =
        setters.map (fun s => s.column.template ++ " = " ++ s.value.template) ∧
      (update target setters).fragment.bindings =
        values ++ (target.filter.toList ++ target.order).flatMap (·.fragment.bindings) := by
  refine ⟨fun q nonempty built => ?_, fun target setters nonempty plain => ?_⟩
  · have apart := Expr.items_list nonempty built
    refine ⟨q.template_fragment, apart, fun unstarred σ ρ c s => ?_⟩
    rw [apart]
    exact Query.resolveColumns_of_plain fun e member =>
      Expr.not_isWildcard (built e member) (unstarred e member)
  · have columns : ∀ s ∈ setters, s.column.raws = [] ∧ s.column.fragment.bindings = [] := by
      intro s member
      obtain ⟨name, column⟩ := (plain s member).1
      rw [column]
      exact ⟨rfl, rfl⟩
    have unbound (s : Setter) (member : s ∈ setters) := (columns s member).2
    have someColumn : setters.map Setter.column ≠ [] := by simpa using nonempty
    have someValue : setters.map Setter.value ≠ [] := by simpa using nonempty
    have columnItems :=
      Expr.items_list someColumn (List.forall_mem_map.2 fun s member => (columns s member).1)
    have valueItems :=
      Expr.items_list someValue (List.forall_mem_map.2 fun s member => (plain s member).2)
    rw [List.map_map] at columnItems valueItems
    constructor
    · intro onConflict
      exact ⟨Command.template_insert onConflict nonempty, columnItems, valueItems,
        Command.bindings_insert onConflict nonempty unbound⟩
    · have each : ∀ part ∈ setters.map Setter.assignment, part.Item := by
        refine List.forall_mem_map.2 fun s member => Setter.item_assignment ?_ ?_
        · exact Expr.item_fragment s.column (columns s member).1
        · exact Expr.item_fragment s.value (plain s member).2
      have assignmentItems := Fragment.items_join (by simpa using nonempty) each
      rw [List.map_map] at assignmentItems
      refine ⟨Command.template_update target setters, ?_, Command.bindings_update target unbound⟩
      rw [assignmentItems]
      exact List.map_congr_left fun s _ => s.template_assignment

/-- Commas, quotes and parentheses in names, in arguments and in a list of values. -/
theorem list_items_stand_apart_punctuated :
    let pair : Expr := .call "f)" [.column "b\"", .bound (.int 1)]
    let q :=
      (Query.ofTable "t").select [.column "a,(", pair, .member false (.column "c") [.int 2, .int 3]]
    let target := (Query.ofTable "t").restrict (.binary .eq (.column "d") (.bound (.int 4)))
    let setters : List Setter := [⟨.column "a,(", pair⟩, ⟨.column "),", .bound (.int 5)⟩]
    (q.columns ≠ [] ∧ (∀ e ∈ q.columns, e.raws = []) ∧ (∀ e ∈ q.columns, e.isStarred = false)) ∧
    (setters ≠ [] ∧ ∀ s ∈ setters, (∃ name, s.column = .column name) ∧ s.value.raws = []) ∧
    Text.items "\"a,(\", \"f)\"(\"b\"\"\", ?), (\"c\" IN (?, ?))" =
      ["\"a,(\"", "\"f)\"(\"b\"\"\", ?)", "(\"c\" IN (?, ?))"] ∧
    (q.resolveColumns (Script.connection ⟨[], .ok {}⟩)).runFrom () =
      (.ok (.ofNames ["\"a,(\"", "\"f)\"(\"b\"\"\", ?)", "(\"c\" IN (?, ?))"]), ()) ∧
    (insert target (some .replace) setters).fragment.template =
      "INSERT OR REPLACE INTO \"t\" (\"a,(\", \"),\") VALUES (\"f)\"(\"b\"\"\", ?), ?) WHERE (\"d\" = ?)" ∧
    (insert target (some .replace) setters).fragment.bindings = [.int 1, .int 5, .int 4] ∧
    Text.items "\"a,(\" = \"f)\"(\"b\"\"\", ?), \"),\" = ?" =
      ["\"a,(\" = \"f)\"(\"b\"\"\", ?)", "\"),\" = ?"] := by
  intro pair q target setters
  obtain ⟨select, set⟩ := list_items_stand_apart
  have built : ∀ e ∈ q.columns, e.raws = [] := by decide
  have nonempty : q.columns ≠ [] := List.cons_ne_nil _ _
  have plain : ∀ s ∈ setters, (∃ name, s.column = .column name) ∧ s.value.raws = [] :=
    List.forall_mem_cons.2
      ⟨⟨⟨_, rfl⟩, by decide⟩, List.forall_mem_singleton.2 ⟨⟨_, rfl⟩, by decide⟩⟩
  have some : setters ≠ [] := List.cons_ne_nil _ _
  have unstarred : ∀ e ∈ q.columns, e.isStarred = false := by decide
  obtain ⟨-, selected, resolves⟩ := select q nonempty built
  have resolved := resolves unstarred (Script.connection ⟨[], .ok {}⟩) ()
  obtain ⟨inserted, -, assigned, -⟩ := set target setters some plain
  obtain ⟨text, -, -, bindings⟩ := inserted (.some .replace)
  have selection : (Expr.list q.columns).template =
      "\"a,(\", \"f)\"(\"b\"\"\", ?), (\"c\" IN (?, ?))" := by
    decide
  have assignments : (Fragment.join ", " (setters.map Setter.assignment)).template =
      "\"a,(\" = \"f)\"(\"b\"\"\", ?), \"),\" = ?" := by decide
  have names : q.columns.map Expr.template =
      ["\"a,(\"", "\"f)\"(\"b\"\"\", ?)", "(\"c\" IN (?, ?))"] := by decide
  rw [selected, names] at resolved
  rw [selection, names] at selected
  rw [assignments] at assigned
  exact ⟨⟨nonempty, built, unstarred⟩, ⟨some, plain⟩, selected, resolved,
    text.trans (by decide), bindings, assigned.trans (by decide)⟩

end TypedSql
