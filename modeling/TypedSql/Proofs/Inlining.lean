import TypedSql.Proofs.Parts

namespace TypedSql

namespace Number.FloatLayout

theorem fixed_eq_cons (layout : FloatLayout) (x : DecimalNumber) :
    ∃ first rest, layout.fixed x = first :: rest ∧ first.isDigit = true := by
  obtain ⟨first, rest, digits⟩ :=
    List.exists_cons_of_ne_nil (Nat.toDigits_ne_nil (n := x.digits) (b := 10))
  have digit : first.isDigit = true :=
    Nat.isDigit_of_mem_toDigits (by decide) (by decide) (digits ▸ List.mem_cons_self)
  unfold fixed
  simp only [Text.decimal, digits]
  split
  · exact ⟨first, _, rfl, digit⟩
  · split
    · rename_i whole
      obtain ⟨n, size⟩ : ∃ n, ((first :: rest).length + x.exponent).toNat = n + 1 :=
        Nat.exists_eq_succ_of_ne_zero (by omega)
      rw [size]
      exact ⟨first, _, rfl, digit⟩
    · exact ⟨'0', _, rfl, rfl⟩

end Number.FloatLayout

theorem Value.literal_eq_cons (value : Value) :
    ∃ first rest, value.literal.toList = first :: rest ∧ first ≠ '?' := by
  have notMark {c : Char} (digit : c.isDigit = true) : c ≠ '?' := by
    rintro rfl
    exact absurd digit (by decide)
  cases value with
  | null => exact ⟨'N', ['U', 'L', 'L'], by decide, by decide⟩
  | int n =>
    obtain ⟨first, rest, digits⟩ :=
      List.exists_cons_of_ne_nil (Nat.toDigits_ne_nil (n := n.toInt.natAbs) (b := 10))
    have digit : first.isDigit = true :=
      Nat.isDigit_of_mem_toDigits (by decide) (by decide) (digits ▸ List.mem_cons_self)
    simp only [literal, Text.intText, String.toList_ofList, Text.signedDecimal,
      Text.decimal, digits]
    split
    · exact ⟨'-', _, rfl, by decide⟩
    · exact ⟨first, rest, rfl, notMark digit⟩
  | real x =>
    simp only [literal, Number.FloatLayout.text]
    split
    · exact ⟨'N', ['a', 'N'], by decide, by decide⟩
    simp only [String.toList_ofList]
    split
    · exact ⟨'-', _, rfl, by decide⟩
    split
    · exact ⟨'i', ['n', 'f'], rfl, by decide⟩
    simp only [Number.FloatLayout.magnitudeText, Number.FloatLayout.positional, Bool.false_eq_true,
      ↓reduceIte, List.nil_append]
    split
    · exact ⟨'0', [], rfl, by decide⟩
    · obtain ⟨first, rest, shape, digit⟩ := Number.FloatLayout.fixed_eq_cons _ _
      exact ⟨first, rest, shape, notMark digit⟩
  | text s => exact ⟨'\'', _, String.toList_ofList, by decide⟩
  | blob bytes => exact ⟨'X', _, String.toList_ofList, by decide⟩

namespace Text

/-- Every question mark inside quotes stands behind the last placeholder. -/
def QuotedMarksLast : Region → List Char → Prop
  | _, [] => True
  | region, c :: rest =>
    (c = '?' → region ≠ .plain → placeholders (region.after c) rest = 0) ∧
      QuotedMarksLast (region.after c) rest

instance decidableQuotedMarksLast : (region : Region) → (cs : List Char) →
    Decidable (QuotedMarksLast region cs)
  | _, [] => .isTrue trivial
  | region, c :: rest =>
    have := decidableQuotedMarksLast (region.after c) rest
    inferInstanceAs
      (Decidable ((c = '?' → region ≠ .plain → placeholders (region.after c) rest = 0) ∧
      QuotedMarksLast (region.after c) rest))

theorem quotedMarksLast_of_placeholders_eq_zero {region : Region} {cs : List Char}
    (free : placeholders region cs = 0) : QuotedMarksLast region cs := by
  induction cs generalizing region with
  | nil => trivial
  | cons c rest ih =>
    have behind : placeholders (region.after c) rest = 0 := (Nat.add_eq_zero_iff.1 free).2
    exact ⟨fun _ _ => behind, ih behind⟩

/-- With one value for each placeholder, inlining fills the placeholders and changes
nothing else as long as no quoted question mark comes before one of them. -/
theorem inlinedChars_eq_filled_iff {region : Region} {cs : List Char} {values : List Value}
    (counted : placeholders region cs = values.length) :
    Fragment.inlinedChars cs values = filled Value.literal region cs values ↔
      QuotedMarksLast region cs := by
  induction cs generalizing region values with
  | nil => simp [Fragment.inlinedChars, filled, QuotedMarksLast]
  | cons c rest ih =>
    cases values with
    | nil => simpa using quotedMarksLast_of_placeholders_eq_zero counted
    | cons value values =>
      by_cases mark : c = '?'
      · subst mark
        by_cases plain : region = .plain
        · subst plain
          have rests : placeholders (Region.plain.after '?') rest = values.length := by
            simp only [placeholders, Region.isPlaceholder, and_self, decide_true, ↓reduceIte,
              List.length_cons] at counted
            omega
          simpa [Fragment.inlinedChars, filled, Region.isPlaceholder, QuotedMarksLast]
            using ih rests
        · -- the value goes into the name, and the placeholder it is for comes later
          have later : placeholders (region.after '?') rest = values.length + 1 := by
            simpa [placeholders, Region.isPlaceholder, plain] using counted
          obtain ⟨first, others, literal, different⟩ := value.literal_eq_cons
          have unequal : Fragment.inlinedChars ('?' :: rest) (value :: values) ≠
              filled Value.literal region ('?' :: rest) (value :: values) := by
            intro same
            have heads : first = '?' := by
              simpa [Fragment.inlinedChars, filled, Region.isPlaceholder, plain, literal] using
                congrArg List.head? same
            exact different heads
          have early : ¬ QuotedMarksLast region ('?' :: rest) := by
            intro last
            have none := last.1 rfl plain
            omega
          exact iff_of_false unequal early
      · have rests : placeholders (region.after c) rest = (value :: values).length := by
          simpa [placeholders, Region.isPlaceholder, mark] using counted
        simpa [Fragment.inlinedChars, filled, Region.isPlaceholder, mark, QuotedMarksLast]
          using ih rests

end Text

open Text (Region QuotedMarksLast filled)

namespace Fragment

/-- The text with the literal of each binding in place of its placeholder. -/
def filledIn (f : Fragment) : String :=
  String.ofList (filled Value.literal .plain f.template.toList f.bindings)

theorem Balanced.inlined_eq_filledIn_iff {f : Fragment} (balanced : f.Balanced) :
    f.inlined = f.filledIn ↔ QuotedMarksLast .plain f.template.toList := by
  rw [inlined, filledIn, String.ofList_inj]
  exact Text.inlinedChars_eq_filled_iff balanced.counted

end Fragment

/-- Expressions and statements over balanced texts from outside, those without any among
them, show their values in place of their placeholders exactly when no question mark
inside quotes stands before a placeholder. -/
theorem inlined_fills_placeholders_iff (e : Expr) (s : Statement) (balanced : e.Balanced)
    (parts : ∀ part ∈ s.expressions, part.Balanced) :
    (e.fragment.inlined = e.fragment.filledIn ↔ QuotedMarksLast .plain e.template.toList) ∧
      (s.fragment.inlined = s.fragment.filledIn ↔
      QuotedMarksLast .plain s.fragment.template.toList) := by
  have expression := e.writesTo_writtenOut Value.literal balanced
  have statement := s.writesTo_mapExprs fun part member =>
    part.writesTo_writtenOut Value.literal (parts part member)
  exact ⟨expression.inlined_eq_filledIn_iff, statement.inlined_eq_filledIn_iff⟩

/-- A column whose name is a question mark keeps its name behind the placeholder of a
comparison and takes the value before it. -/
theorem inlined_fills_placeholders_iff_marked_column :
    let behind : Expr := .binary .lt (.bound (.int 5)) (.column "a?")
    let before := (Query.ofTable "t").restrict (.binary .eq (.column "a?") (.bound (.int 5)))
    behind.Balanced ∧ (∀ part ∈ (Statement.select before).expressions, part.Balanced) ∧
      behind.fragment.inlined = behind.fragment.filledIn ∧
      (Statement.select before).fragment.inlined ≠ (Statement.select before).fragment.filledIn := by
  intro behind before
  have balanced : behind.Balanced := by decide
  have parts : ∀ part ∈ (Statement.select before).expressions, part.Balanced := by decide
  obtain ⟨expression, statement⟩ :=
    inlined_fills_placeholders_iff behind (.select before) balanced parts
  refine ⟨balanced, parts, expression.2 (by decide), fun same => ?_⟩
  exact absurd (statement.1 same) (by decide)

/-- The value of a comparison is written into the name of the column instead of behind it. -/
theorem inlined_rewrites_quoted_mark :
    let e : Expr := .binary .eq (.column "a?") (.bound (.int 5))
    e.fragment.filledIn = "(\"a?\" = 5)" ∧ e.fragment.inlined = "(\"a5\" = ?)" := by
  decide

end TypedSql
