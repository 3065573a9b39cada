import TypedSql.Connection.Resolve
import TypedSql.Proofs.Writing

namespace TypedSql

theorem splitLastDot_eq_none_iff {text : List Char} : splitLastDot text = none ↔ '.' ∉ text := by
  fun_induction splitLastDot text <;> grind

/-- The last dot is the one with no dot after it. -/
theorem splitLastDot_eq_some_iff {text before after : List Char} :
    splitLastDot text = some (before, after) ↔ text = before ++ '.' :: after ∧ '.' ∉ after := by
  fun_induction splitLastDot text generalizing before after with
  | case1 => simp
  | case2 c rest first last found ih =>
    cases before with
    | nil =>
      have dotted : '.' ∈ rest := by simp [(ih.1 found).1]
      grind
    | cons d before =>
      have split := @ih before after
      grind
  | case3 rest noDot =>
    have free := splitLastDot_eq_none_iff.1 noDot
    cases before <;> grind
  | case4 c rest noDot different =>
    have free := splitLastDot_eq_none_iff.1 noDot
    cases before <;> grind

/-- The text asks for all columns, of all tables or of one. -/
def IsWildcard (template : String) : Prop :=
  template = "*" ∨ ∃ reference, template = reference ++ ".*"

namespace Selected

theorem ofTemplate_star : ofTemplate "*" = .everything := by decide

theorem ofTemplate_append (reference : String) :
    ofTemplate (reference ++ ".*") = .everythingOf reference := by
  have split : splitLastDot (reference ++ ".*").toList = some (reference.toList, ['*']) :=
    splitLastDot_eq_some_iff.2 (by simp)
  simp only [ofTemplate, split, ↓reduceIte, String.ofList_toList]

theorem ofTemplate_of_not_wildcard {template : String} (plain : ¬ IsWildcard template) :
    ofTemplate template = .expression template := by
  unfold ofTemplate
  cases found : splitLastDot template.toList with
  | none => simp [show template ≠ "*" from fun same => plain (.inl same)]
  | some parts =>
    obtain ⟨before, after⟩ := parts
    have shape := (splitLastDot_eq_some_iff.1 found).1
    have notStar : after ≠ ['*'] := by
      rintro rfl
      refine plain (.inr ⟨String.ofList before, ?_⟩)
      simp [← String.toList_inj, shape]
    simp [notStar]

end Selected

namespace Expr

/-- A star stands at the end of the expression. -/
def isStarred : Expr → Bool
  | star => true
  | qualified _ item | distinct item => item.isStarred
  | _ => false

private theorem getLast?_append_ne_star {first second : List Char}
    (ends : second.getLast? ≠ some '*')
    (endsBefore : first.getLast? ≠ some '*') : (first ++ second).getLast? ≠ some '*' := by
  rw [List.getLast?_append]
  cases found : second.getLast? with
  | none => simpa using endsBefore
  | some c => simpa [found] using ends

private theorem getLast?_wrap_ne_star (head : String) (inner : Fragment) :
    (Fragment.wrap head inner).template.toList.getLast? ≠ some '*' := by
  simp [List.getLast?_cons]

theorem getLast?_template_ne_star (e : Expr) (built : e.raws = []) (plain : e.isStarred = false) :
    e.template.toList.getLast? ≠ some '*' := by
  cases e with
  | column name => simp [template, fragment, Fragment.identifier, Text.quote, List.getLast?_cons]
  | qualified table item =>
    have ending := item.getLast?_template_ne_star built plain
    have shape : (qualified table item).template.toList =
        (table.reference.template ++ ".").toList ++ item.template.toList := by
      simp [template, fragment]
    rw [shape]
    exact getLast?_append_ne_star ending (by simp)
  | distinct item =>
    have ending := item.getLast?_template_ne_star built plain
    have shape : (distinct item).template.toList = "DISTINCT ".toList ++ item.template.toList := by
      simp [template, fragment]
    rw [shape]
    exact getLast?_append_ne_star ending (by decide)
  | bound value => simp [template, fragment, Fragment.bound]
  | within item interval =>
    cases interval <;>
      simp [template, fragment, intervalTest_eq, Fragment.operation, Fragment.bound,
        List.getLast?_cons]
  | ordered item direction =>
    cases direction <;> simp [template, fragment, Fragment.clauses, Direction.keyword]
  | cast item target => simp [template, fragment, List.getLast?_cons]
  | binary | unary | member | aggregate | call =>
    simpa only [template, fragment, Fragment.operation, if_true] using getLast?_wrap_ne_star _ _
  | null | rowid | countAll => decide
  | star => cases plain
  | raw | joined | operation | wrap => cases built

/-- What is built without texts from outside is a wildcard only if it ends in a star. -/
theorem not_isWildcard {e : Expr} (built : e.raws = []) (plain : e.isStarred = false) :
    ¬ IsWildcard e.template := by
  have ending := e.getLast?_template_ne_star built plain
  rintro (star | ⟨reference, starOf⟩)
  · exact ending (by simp [star])
  · exact ending (by simp [starOf])

end Expr

end TypedSql
