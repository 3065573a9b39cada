import TypedSql.Query.Basic

namespace TypedSql.Text

theorem doubled_append (mark : Char) (first second : List Char) :
    doubled mark (first ++ second) = doubled mark first ++ doubled mark second := by
  induction first with
  | nil => rfl
  | cons c rest ih => by_cases same : c = mark <;> simp [doubled, same, ih]

theorem doubled_reverse (mark : Char) (text : List Char) :
    doubled mark text.reverse = (doubled mark text).reverse := by
  induction text with
  | nil => rfl
  | cons c rest ih =>
    rw [List.reverse_cons, doubled_append, ih]
    by_cases same : c = mark <;> simp [doubled, same]

/-- Read backward, a quoted text at the end gives its name and what stands before it. -/
theorem readQuoted_reverse {mark : Char} {before : List Char}
    (ends : ∀ c ∈ before.getLast?, c ≠ mark) (name : String) :
    readQuoted mark (before ++ (quoteWith mark name).toList).reverse.tail =
      some (name.toList.reverse, before.reverse) := by
  have shape : (before ++ (quoteWith mark name).toList).reverse.tail =
      doubled mark name.toList.reverse ++ mark :: before.reverse := by
    simp [doubled_reverse]
  rw [shape]
  refine readQuoted_doubled mark _ _ ?_
  simpa using ends

theorem append_quoteWith_inj {mark : Char} {before other : List Char} {name otherName : String}
    (ends : ∀ c ∈ before.getLast?, c ≠ mark) (otherEnds : ∀ c ∈ other.getLast?, c ≠ mark)
    (same : before ++ (quoteWith mark name).toList = other ++ (quoteWith mark otherName).toList) :
    before = other ∧ name = otherName := by
  have first := readQuoted_reverse ends name
  have second := readQuoted_reverse otherEnds otherName
  rw [same, second] at first
  obtain ⟨names, befores⟩ := Prod.mk.inj (Option.some.inj first)
  exact ⟨(List.reverse_inj.1 befores).symm, (String.toList_inj.1 (List.reverse_inj.1 names)).symm⟩

/-- A column under a reference to its table. -/
def qualify (reference column : String) : String :=
  reference ++ "." ++ quote column

theorem toList_qualify (reference column : String) :
    (qualify reference column).toList = reference.toList ++ '.' :: (quote column).toList := by
  simp [qualify]

/-- The dot before the column is not part of its quoted name. -/
private theorem dot_ends (reference : String) :
    ∀ c ∈ (reference.toList ++ ['.']).getLast?, c ≠ '"' := by
  simp

@[simp] theorem qualify_inj {reference other column name : String} :
    qualify reference column = qualify other name ↔ reference = other ∧ column = name := by
  constructor
  · intro same
    have texts : (reference.toList ++ ['.']) ++ (quoteWith '"' column).toList =
        (other.toList ++ ['.']) ++ (quoteWith '"' name).toList := by
      simpa [← String.toList_inj, toList_qualify, quote] using same
    obtain ⟨references, columns⟩ := append_quoteWith_inj (dot_ends reference) (dot_ends other) texts
    exact ⟨String.toList_inj.1 (List.append_cancel_right references), columns⟩
  · rintro ⟨rfl, rfl⟩
    rfl

theorem quote_injective : Function.Injective quote := by
  intro column name same
  have qualified : qualify "" column = qualify "" name := congrArg ("" ++ "." ++ ·) same
  exact (qualify_inj.1 qualified).2

theorem quote_ne_qualify (name reference column : String) :
    quote name ≠ qualify reference column := by
  intro same
  have texts : [] ++ (quoteWith '"' name).toList =
      (reference.toList ++ ['.']) ++ (quoteWith '"' column).toList := by
    simpa [← String.toList_inj, toList_qualify, quote] using same
  have befores := (append_quoteWith_inj (by simp) (dot_ends reference) texts).1
  simp at befores

/-- A qualified name ends in a dot and one quoted name only, that of its column. -/
theorem quote_suffix_qualify {name reference column : String} :
    ('.' :: (quote name).toList) <:+ (qualify reference column).toList ↔ column = name := by
  rw [toList_qualify]
  constructor
  · rintro ⟨before, same⟩
    have texts : (String.ofList before).toList ++ '.' :: (quote name).toList =
        reference.toList ++ '.' :: (quote column).toList := by simpa using same
    rw [← toList_qualify, ← toList_qualify, String.toList_inj, qualify_inj] at texts
    exact texts.2.symm
  · rintro rfl
    exact List.suffix_append _ _

end TypedSql.Text

namespace TypedSql

@[simp] theorem Term.template_column (t : SqlType) (name : String) :
    (Term.column t name).template = Text.quote name := rfl

@[simp] theorem Term.template_qualified_column (t : SqlType) (table : TableRef) (name : String) :
    ((Term.column t name).qualified table).template =
      Text.qualify table.reference.template name := by
  simp [Term.template, Term.qualified, Term.column, Expr.template, Expr.fragment, Text.qualify,
    Fragment.identifier]

end TypedSql
