import TypedSql.Proofs.Reading.Bracketed

namespace TypedSql

open Reading

namespace Expr

theorem Wrapped.fragment_of_tree_column {e : Expr} (wrapped : e.Wrapped) {path : List String}
    (tree : e.tree = .column path) : e.fragment = .join "." (path.map .identifier) := by
  induction wrapped generalizing path with
  | column name =>
    obtain rfl := Tree.column.inj tree
    simp [Expr.fragment, Fragment.join]
  | @qualified item table reference inner ih =>
    obtain ⟨first, others, names, _⟩ := inner.reference reference
    have whole := ih names
    rw [Expr.tree, names, Tree.under] at tree
    obtain rfl := Tree.column.inj tree
    rw [Expr.fragment, whole]
    have single (f : Fragment) : Fragment.join "." [f] = f := by
      ext1 <;> simp
    obtain ⟨name, label, schema⟩ := table
    cases label with
    | some label => simp [TableRef.path, TableRef.reference, Fragment.join_cons_cons, single]
    | none => cases schema with
      | none =>
        simp [TableRef.path, TableRef.reference, TableRef.qualifiedName,
          Fragment.join_cons_cons, single]
      | some schema =>
        simp only [TableRef.path, TableRef.reference, TableRef.qualifiedName,
          Fragment.join_cons_cons, single, Option.toList_some, List.cons_append, List.nil_append,
          List.map_cons]
        ext1 <;> simp [Fragment.identifier, String.append_assoc]
  | aggregate function inner => cases inner <;> cases tree
  | _ => cases tree

/-- A wrapped expression compiles to the text of its tree. -/
theorem Wrapped.fragment_eq {e : Expr} (wrapped : e.Wrapped) : e.fragment = e.tree.fragment := by
  have ofReference {e : Expr} (wrapped : e.Wrapped) (reference : e.isReference = true) :
      e.fragment = e.tree.fragment := by
    obtain ⟨name, names, tree, _⟩ := wrapped.reference reference
    rw [wrapped.fragment_of_tree_column tree, tree, Tree.fragment]
  induction wrapped with
  | column name => exact ofReference (.column name) rfl
  | qualified table reference inner => exact ofReference (.qualified table reference inner) rfl
  | bound | null => rfl
  | binary op _ _ first second => simp only [Expr.fragment, Expr.tree, Tree.fragment, first, second]
  | unary op _ ih => simp only [Expr.fragment, Expr.tree, Tree.fragment, ih]
  | member negated values _ ih =>
    have items : Tree.fragments (values.map .bound) = values.map .bound := by
      rw [Tree.fragments_eq_map, List.map_map]
      rfl
    simp only [Expr.fragment, Expr.tree, Tree.fragment, ih, items]
  | @aggregate item function inner ih =>
    rw [inner.tree_aggregate, Expr.fragment, ih]
    rfl
  | cast target _ ih => simp only [Expr.fragment, Expr.tree, Tree.fragment, ih]
  | @call arguments name _ ih =>
    have items : Tree.fragments (trees arguments) = fragments arguments := by
      rw [Tree.fragments_eq_map, trees_eq_map, fragments_eq_map, List.map_map]
      exact List.map_congr_left fun argument member => (ih argument member).symm
    simp only [Expr.fragment, Expr.tree, Tree.fragment, items]

end Expr

/-- Reading without precedence undoes compilation, so two wrapped expressions compile to
the same text and bindings only if they are the same expression. -/
theorem wrapped_expression_read_back_iff {e₁ e₂ : Expr} (first : e₁.Wrapped) (second : e₂.Wrapped) :
    e₁.fragment.readBracketed = some e₁.tree ∧
      (e₁.template = e₂.template ∧ e₁.fragment.bindings = e₂.fragment.bindings ↔
      e₁.tree = e₂.tree) := by
  refine ⟨first.readBracketed, ?_, ?_⟩
  · rintro ⟨template, bindings⟩
    have same : e₁.fragment = e₂.fragment := Fragment.ext template bindings
    have reads := first.readBracketed
    rw [same, second.readBracketed] at reads
    exact (Option.some.inj reads).symm
  · intro same
    have fragments : e₁.fragment = e₂.fragment := by
      rw [first.fragment_eq, second.fragment_eq, same]
    exact ⟨congrArg Fragment.template fragments, congrArg Fragment.bindings fragments⟩

/-- A name full of symbols, below a schema and below a label, and a negation behind IS,
which is read as one only at the end of its parentheses. -/
theorem wrapped_expression_read_back_iff_negation_behind_is :
    let name : Expr := .column "a\" IS NOT (b, ?"
    let negation : Expr := .unary .not (.binary .eq (.bound (.int 1)) .null)
    let e₁ : Expr := .binary .is (.qualified ⟨"t", none, some "s"⟩ name) negation
    let e₂ : Expr :=
      .binary .is (.qualified ⟨"s", none, none⟩ (.qualified ⟨"x", some "t", none⟩ name)) negation
    e₁.Wrapped ∧ e₂.Wrapped ∧ e₁.fragment.readBracketed = some e₁.tree ∧
      e₁.template = e₂.template ∧ e₁.tree = e₂.tree := by
  intro name negation e₁ e₂
  have column : name.Wrapped := .column _
  have not : negation.Wrapped := .unary _ (.binary _ (.bound _) .null)
  have first : e₁.Wrapped := .binary _ (.qualified _ rfl column) not
  have second : e₂.Wrapped := .binary _ (.qualified _ rfl (.qualified _ rfl column)) not
  obtain ⟨reads, same⟩ := wrapped_expression_read_back_iff first second
  exact ⟨first, second, reads, (same.2 rfl).1, rfl⟩

end TypedSql
