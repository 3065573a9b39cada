import TypedSql.Proofs.Steps

namespace TypedSql

/-- Expressions and statements over balanced texts from outside are balanced, with each
placeholder that of its own binding, for every way to write values. Any chain of steps
makes a query that takes its texts from the steps. -/
theorem placeholders_meet_bindings (write : Value → String) :
    (∀ e : Expr, e.Balanced → e.fragment.WritesTo write (e.writtenOut write).fragment) ∧
    (∀ s : Statement, (∀ e ∈ s.expressions, e.Balanced) →
      s.fragment.WritesTo write (s.mapExprs (Expr.writtenOut write)).fragment) ∧
    (∀ (name : String) (schema : Option String) (steps : List Query.Step),
      (∀ step ∈ steps, ∀ e ∈ step.expressions, e.Balanced) →
        ∀ e ∈ (Query.build name schema steps).expressions, e.Balanced) := by
  refine ⟨Expr.writesTo_writtenOut write, fun s balanced => ?_, fun name schema steps given => ?_⟩
  · exact s.writesTo_mapExprs fun e member => e.writesTo_writtenOut write (balanced e member)
  · have conjoins (first second : Expr) (left : first.Balanced) (right : second.Balanced) :
        (Query.conjoin first second).Balanced := List.forall_mem_append.2 ⟨left, right⟩
    exact Query.forall_expressions_build conjoins (by decide) name schema given

/-- A name and a text from outside that hold question marks, an item that a range test
repeats, and the filter of a join target. -/
theorem placeholders_meet_bindings_joined :
    let test : Expr :=
      .within (.operation "||" (.column "a?\"b") (.raw ⟨"'?' || ?", [.text "x"]⟩) true)
      (.halfOpen (.int 1) (.int 2))
    let target := (Query.ofTable "u?").restrict (.binary .eq (.column "c") (.bound (.int 3)))
    let steps : List Query.Step :=
      [.select [test], .join .inner target (.column "d"), .restrict test, .union target]
    let q := Query.build "t" none steps
    (test.Balanced ∧
      test.fragment.WritesTo Value.literal (test.writtenOut Value.literal).fragment) ∧
    (∀ step ∈ steps, ∀ e ∈ step.expressions, e.Balanced) ∧ (∀ e ∈ q.expressions, e.Balanced) ∧
    (Statement.exists q).fragment.WritesTo Value.literal
      ((Statement.exists q).mapExprs (Expr.writtenOut Value.literal)).fragment := by
  intro test target steps q
  obtain ⟨expressions, statements, chains⟩ := placeholders_meet_bindings Value.literal
  have balanced : test.Balanced := by decide
  have given : ∀ step ∈ steps, ∀ e ∈ step.expressions, e.Balanced := by decide
  have built := chains "t" none steps given
  exact ⟨⟨balanced, expressions test balanced⟩, given, built, statements (.exists q) built⟩

end TypedSql
