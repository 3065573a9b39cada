import TypedSql.Proofs.Steps

namespace TypedSql

namespace Fragment

/-- The text has as many question marks as there are bindings, wherever they stand. -/
def Counted (f : Fragment) : Prop :=
  f.template.toList.count '?' = f.bindings.length

instance (f : Fragment) : Decidable f.Counted :=
  inferInstanceAs (Decidable (_ = _))

/-- The literals go to the part of the text whose question marks they are for, and the literals
themselves are not read again. -/
theorem inlinedChars_append {first : List Char} {values : List Value}
    (counted : first.count '?' = values.length) (second : List Char) (more : List Value) :
    inlinedChars (first ++ second) (values ++ more) =
      inlinedChars first values ++ inlinedChars second more := by
  induction first generalizing values with
  | nil =>
    have none : values = [] := List.eq_nil_of_length_eq_zero counted.symm
    simp [none, inlinedChars]
  | cons c rest ih =>
    by_cases mark : c = '?'
    · cases values with
      | nil => simp [mark] at counted
      | cons value values =>
        have rests : rest.count '?' = values.length := by simpa [mark] using counted
        simp [inlinedChars, mark, ih rests]
    · have rests : rest.count '?' = values.length := by simpa [mark] using counted
      have step := ih rests
      cases values <;> cases more <;> simp_all [inlinedChars]

/-- The fragment inlines to the text of `result`, which binds nothing any more. -/
structure InlinesTo (f result : Fragment) : Prop where
  counted : f.Counted
  written : f.inlined = result.template
  unbound : result.bindings = []

namespace InlinesTo

theorem append {f g result other : Fragment} (first : f.InlinesTo result)
    (second : g.InlinesTo other) :
    (f ++ g).InlinesTo (result ++ other) where
  counted := by
    have firstCounted := first.counted
    have secondCounted := second.counted
    unfold Counted at firstCounted secondCounted ⊢
    simp [firstCounted, secondCounted]
  written := by
    rw [template_append, ← first.written, ← second.written]
    simp [inlined, inlinedChars_append first.counted]
  unbound := by simp [first.unbound, second.unbound]

theorem text {text : String} (free : '?' ∉ text.toList) :
    (ofText text).InlinesTo (ofText text) where
  counted := List.count_eq_zero.2 free
  written := by simp [inlined]
  unbound := rfl

theorem congruent : Congruent InlinesTo where
  text ordinary := text fun mark => Bool.false_ne_true (List.all_eq_true.1 ordinary '?' mark)
  append := append

theorem alone {f : Fragment} (counted : f.Counted) : f.InlinesTo (ofText f.inlined) :=
  ⟨counted, rfl, rfl⟩

theorem identifier {name : String} (free : '?' ∉ name.toList) :
    (identifier name).InlinesTo (.identifier name) := by
  have doubled (cs : List Char) (free : '?' ∉ cs) : '?' ∉ Text.doubled '"' cs := by
    induction cs with
    | nil => simp [Text.doubled]
    | cons c rest ih =>
      obtain ⟨first, others⟩ := not_or.1 (List.mem_cons.not.1 free)
      by_cases mark : c = '"' <;> simp [Text.doubled, mark, ih others, first]
  exact text (by simp [Text.quote, doubled name.toList free])

end InlinesTo

end Fragment

open Fragment (Counted InlinesTo ofText)

namespace Expr

/-- The expression as a text in which its values are written. -/
def inlinedAlone (e : Expr) : Expr :=
  .raw (ofText e.fragment.inlined)

theorem inlinesTo_inlinedAlone {e : Expr} (counted : e.fragment.Counted) :
    e.fragment.InlinesTo e.inlinedAlone.fragment := by
  simpa only [inlinedAlone, fragment] using InlinesTo.alone counted

theorem counted_conjoin {first second : Expr} (left : first.fragment.Counted)
    (right : second.fragment.Counted) : (Query.conjoin first second).fragment.Counted :=
  (InlinesTo.congruent.operation (.text (by decide)) (.alone left) (.alone right) true).counted

end Expr

/-- Joining, combining and wrapping inlined texts gives the inlined text of the whole, and so
does every statement over texts that are counted. A chain of steps keeps them so. -/
theorem inlining_commutes_with_composition :
    (∀ (separator : String) (items : List Expr), '?' ∉ separator.toList →
      (∀ e ∈ items, e.fragment.Counted) →
        (Expr.joined separator items).fragment.Counted ∧
        (Expr.joined separator items).fragment.inlined =
          separator.intercalate (items.map (·.fragment.inlined))) ∧
    (∀ (op : String) (left right : Expr) (wrapped : Bool), '?' ∉ op.toList →
      left.fragment.Counted → right.fragment.Counted →
        (Expr.operation op left right wrapped).fragment.Counted ∧
        (Expr.operation op left right wrapped).fragment.inlined =
          let bare := left.fragment.inlined ++ " " ++ op ++ " " ++ right.fragment.inlined
          if wrapped then "(" ++ bare ++ ")" else bare) ∧
    (∀ (head : String) (item : Expr), '?' ∉ head.toList → item.fragment.Counted →
      (Expr.wrap head item).fragment.Counted ∧
      (Expr.wrap head item).fragment.inlined = head ++ "(" ++ item.fragment.inlined ++ ")") ∧
    (∀ s : Statement, (∀ name ∈ s.names, '?' ∉ name.toList) →
      (∀ e ∈ s.expressions, e.fragment.Counted) →
        s.fragment.Counted ∧
        s.fragment.inlined = (s.mapExprs Expr.inlinedAlone).fragment.template) ∧
    ∀ (name : String) (schema : Option String) (steps : List Query.Step),
      (∀ step ∈ steps, ∀ e ∈ step.expressions, e.fragment.Counted) →
        ∀ e ∈ (Query.build name schema steps).expressions, e.fragment.Counted := by
  refine ⟨fun separator items free counted => ?_, fun op left right wrapped free first second => ?_,
    fun head item free counted => ?_, fun s free counted => ?_, fun name schema steps given => ?_⟩
  · have each : List.Forall₂ InlinesTo (items.map Expr.fragment)
        (items.map (·.inlinedAlone.fragment)) := by
      rw [List.forall₂_map_left_iff, List.forall₂_map_right_iff, List.forall₂_same]
      exact fun e member => Expr.inlinesTo_inlinedAlone (counted e member)
    have joined := InlinesTo.congruent.join (.text free) each
    rw [Expr.fragment, Expr.fragments_eq_map]
    refine ⟨joined.counted, joined.written.trans ?_⟩
    simp [Expr.inlinedAlone, Expr.fragment, Function.comp_def]
  · have combined :=
      InlinesTo.congruent.operation (.text free) (.alone first) (.alone second) wrapped
    rw [Expr.fragment]
    refine ⟨combined.counted, combined.written.trans ?_⟩
    cases wrapped <;> simp [Fragment.operation, String.append_assoc]
  · have wrapped := InlinesTo.congruent.wrap (.text free) (.alone counted)
    rw [Expr.fragment]
    exact ⟨wrapped.counted, wrapped.written⟩
  · have named (name : String) (member : name ∈ s.names) := InlinesTo.identifier (free name member)
    have written := s.congruent_mapExprs InlinesTo.congruent named
      fun e member => Expr.inlinesTo_inlinedAlone (counted e member)
    exact ⟨written.counted, written.written⟩
  · have star : Expr.star.fragment.Counted := by decide
    have conjoins (first second : Expr) := @Expr.counted_conjoin first second
    exact Query.forall_expressions_build conjoins star name schema given

/-- A question mark in a value stays, and the values behind it go to their own places: in a
list, in a join, in two conditions and in a union. -/
theorem inlining_commutes_with_composition_question :
    let asked : Expr := .binary .eq (.column "a") (.bound (.text "who?"))
    let counted : Expr := .raw ⟨"b > ?", [.int 2]⟩
    let other := (Query.ofTable "u").restrict counted
    let steps : List Query.Step :=
      [.join .inner other asked, .restrict counted, .restrict asked, .union other]
    let s := Statement.exists (Query.build "t" none steps)
    ((∀ e ∈ [asked, counted], e.fragment.Counted) ∧
      (Expr.joined " OR " [asked, counted]).fragment.inlined = "(\"a\" = 'who?') OR b > 2") ∧
    (Expr.operation "OR" asked counted true).fragment.inlined = "((\"a\" = 'who?') OR b > 2)" ∧
    (Expr.wrap "NOT " asked).fragment.inlined = "NOT ((\"a\" = 'who?'))" ∧
    ((∀ step ∈ steps, ∀ e ∈ step.expressions, e.fragment.Counted) ∧
    (∀ name ∈ s.names, '?' ∉ name.toList) ∧
      s.fragment.inlined =
        "SELECT EXISTS(SELECT * FROM \"t\" INNER JOIN \"u\" ON ((\"a\" = 'who?') AND b > 2) " ++
          "WHERE (b > 2 AND (\"a\" = 'who?')) UNION SELECT * FROM \"u\" WHERE b > 2)") := by
  intro asked counted other steps s
  obtain ⟨join, operation, wrap, statement, chain⟩ := inlining_commutes_with_composition
  have each : ∀ e ∈ [asked, counted], e.fragment.Counted := by decide
  have given : ∀ step ∈ steps, ∀ e ∈ step.expressions, e.fragment.Counted := by decide
  have named : ∀ name ∈ s.names, '?' ∉ name.toList := by decide
  have joined := join " OR " [asked, counted] (by decide) each
  have combined := operation "OR" asked counted true (by decide) (by decide) (by decide)
  have negated := wrap "NOT " asked (by decide) (by decide)
  have whole := statement s named (chain "t" none steps given)
  exact ⟨⟨each, joined.2.trans (by decide)⟩, combined.2.trans (by decide),
    negated.2.trans (by decide), given, named, whole.2.trans (by decide +kernel)⟩

end TypedSql
