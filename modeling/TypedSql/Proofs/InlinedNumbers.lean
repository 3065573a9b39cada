import TypedSql.Proofs.InlinedParts
import TypedSql.Proofs.Inlining
import TypedSql.Proofs.Number.Numeral
import TypedSql.Proofs.Number.Unpacked

namespace TypedSql

namespace Number

open FloatLayout (positional)

theorem exists_int_eq_iff {r : ℚ} : (∃ n : ℤ, r = n) ↔ ∃ n : ℕ, |r| = n := by
  constructor
  · rintro ⟨n, rfl⟩
    exact ⟨n.natAbs, by rw [Nat.cast_natAbs, Int.cast_abs]⟩
  · rintro ⟨n, size⟩
    rcases abs_eq (Nat.cast_nonneg n) |>.1 size with same | mirrored
    · exact ⟨n, by exact_mod_cast same⟩
    · exact ⟨-n, by exact_mod_cast mirrored⟩

/-- What is written without a sign is read as a number that rounds to the size of the float. -/
theorem readUnsigned?_magnitudeText (x : Float) :
    ∃ number, Numeral.readUnsigned? (positional.magnitudeText x) = some number ∧
      Nearest number.value |exact x| (x.toBits.toNat % 2 = 0) ∧
      (number.IsReal ↔ ¬ ∃ n : ℤ, exact x = n) := by
  rw [exists_int_eq_iff]
  cases sized : positive? x with
  | none =>
    have zero := exact_eq_zero sized
    refine ⟨.integer 0, ?_, ?_, ?_⟩
    · simp only [FloatLayout.magnitudeText, sized, positional]
      rfl
    · rw [zero, abs_zero]
      exact_mod_cast Nearest.refl 0 _
    · rw [zero, abs_zero]
      exact iff_of_false id (not_not.2 ⟨0, Nat.cast_zero.symm⟩)
  | some n =>
    obtain ⟨ok, parity⟩ := isBinary64_of_positive? sized
    have size := abs_exact sized
    have text : positional.magnitudeText x = positional.fixed (shortest n) := by
      simp [FloatLayout.magnitudeText, sized, positional]
    refine ⟨Numeral.ofDecimal (shortest n), ?_, ?_, ?_⟩
    · rw [text, FloatLayout.readUnsigned?_fixed]
    · rw [size, Numeral.value_ofDecimal, ← parity]
      exact ok.nearest_of_rounds (BinaryNumber.rounds_shortest ok)
    · rw [size, Numeral.isReal_ofDecimal, BinaryNumber.shortest_exponent_neg_iff ok]

theorem toList_literal {x : Float} (number : x.isNaN = false) :
    (Value.real x).literal.toList =
      (if isNegative x then ['-'] else []) ++
        if x.isInf then ['i', 'n', 'f'] else positional.magnitudeText x := by
  rw [Value.literal, FloatLayout.text, if_neg (Bool.eq_false_iff.1 number), String.toList_ofList]

/-- A finite float is written as a number that rounds to it, a real one exactly if the float
is no whole number. -/
theorem read?_literal {x : Float} (finite : x.isFinite = true) :
    ∃ number, Numeral.read? (Value.real x).literal.toList = some number ∧
      RoundsTo number.value x ∧ (number.IsReal ↔ ¬ ∃ n : ℤ, exact x = n) := by
  obtain ⟨number, read, nearest, real⟩ := readUnsigned?_magnitudeText x
  obtain ⟨notNaN, notInf⟩ := isFinite_iff.1 finite
  have signed := exact_eq_signed x
  have text := toList_literal notNaN
  rw [if_neg (Bool.eq_false_iff.1 notInf)] at text
  by_cases negative : isNegative x = true
  · rw [if_pos negative] at signed text
    refine ⟨number.neg, ?_, ⟨finite, ?_⟩, number.isReal_neg.trans real⟩
    · rw [text]
      exact congrArg (Option.map Numeral.neg) read
    · rw [number.value_neg, signed]
      exact nearest.neg
  · rw [if_neg negative] at signed text
    refine ⟨number, ?_, ⟨finite, ?_⟩, real⟩
    · rw [text]
      exact Numeral.read?_of_readUnsigned? read
    · rwa [signed]

theorem read?_literal_eq_none {x : Float} (infinite : x.isFinite = false) :
    Numeral.read? (Value.real x).literal.toList = none := by
  by_cases nan : x.isNaN = true
  · rw [Value.literal, FloatLayout.text, if_pos nan]
    rfl
  · have inf : x.isInf = true := by
      by_contra small
      have finite := isFinite_iff.2 ⟨Bool.eq_false_iff.2 nan, Bool.eq_false_iff.2 small⟩
      exact absurd finite (Bool.eq_false_iff.1 infinite)
    rw [toList_literal (Bool.eq_false_iff.2 nan), if_pos inf]
    split <;> rfl

end Number

namespace Text

theorem placeholders_le_count (region : Region) (cs : List Char) :
    placeholders region cs ≤ cs.count '?' := by
  induction cs generalizing region with
  | nil => simp [placeholders]
  | cons c rest ih =>
    have behind := ih (region.after c)
    by_cases mark : c = '?'
    · simp only [placeholders, mark, List.count_cons_self] at behind ⊢
      split <;> omega
    · simpa [placeholders, Region.isPlaceholder, mark] using behind

/-- A text with more question marks than so many has one right behind so many. -/
theorem exists_split_of_lt_count {cs : List Char} {number : ℕ} (less : number < cs.count '?') :
    ∃ before after, cs = before ++ '?' :: after ∧ before.count '?' = number := by
  induction cs generalizing number with
  | nil => simp at less
  | cons c rest ih =>
    by_cases mark : c = '?'
    · subst mark
      cases number with
      | zero => exact ⟨[], rest, rfl, rfl⟩
      | succ number =>
        rw [List.count_cons_self] at less
        obtain ⟨before, after, split, counted⟩ := ih (Nat.lt_of_succ_lt_succ less)
        exact ⟨'?' :: before,
          after, by rw [split, List.cons_append], by rw [List.count_cons_self, counted]⟩
    · rw [List.count_cons_of_ne mark] at less
      obtain ⟨before, after, split, counted⟩ := ih less
      exact ⟨c :: before,
        after, by rw [split, List.cons_append], by rw [List.count_cons_of_ne mark, counted]⟩

end Text

namespace Fragment

section Place
variable {f : Fragment} {values more : List Value} {value : Value}

/-- A binding has as many question marks before its own as there are bindings before it. -/
theorem Balanced.exists_place (balanced : f.Balanced)
    (bound : f.bindings = values ++ value :: more) :
    ∃ before after,
      f.template.toList = before ++ '?' :: after ∧ before.count '?' = values.length := by
  have placed := Text.placeholders_le_count .plain f.template.toList
  rw [balanced.counted, bound, List.length_append, List.length_cons] at placed
  exact Text.exists_split_of_lt_count (by omega)

theorem toList_inlined_of_split {before after : List Char}
    (split : f.template.toList = before ++ '?' :: after)
    (counted : before.count '?' = values.length) (bound : f.bindings = values ++ value :: more) :
    f.inlined.toList =
      inlinedChars before values ++ value.literal.toList ++ inlinedChars after more := by
  rw [inlined, String.toList_ofList, split, bound, inlinedChars_append counted, List.append_assoc]
  rfl

end Place

end Fragment

open Fragment (inlinedChars)
open Number (Numeral RoundsTo exact)

/-- In the inlined text of an expression or a statement, the literal in place of a bound float
is a real number that rounds to the float exactly when the float is finite and no whole
number. A whole float becomes an integer that rounds to it, and any other float no number.
Over balanced texts from outside every bound float has such a place. -/
theorem inlined_float_is_real_iff (e : Expr) (s : Statement) (f : Fragment)
    (compiled : f = e.fragment ∨ f = s.fragment) (values more : List Value) (x : Float)
    (bound : f.bindings = values ++ .real x :: more) :
    (∀ before after, f.template.toList = before ++ '?' :: after → before.count '?' = values.length →
      f.inlined.toList =
        inlinedChars before values ++ (Value.real x).literal.toList ++ inlinedChars after more) ∧
    (e.Balanced → (∀ part ∈ s.expressions, part.Balanced) →
      ∃ before after,
        f.template.toList = before ++ '?' :: after ∧ before.count '?' = values.length) ∧
    ((∃ r, Numeral.read? (Value.real x).literal.toList = some (.real r) ∧ RoundsTo r x) ↔
      x.isFinite ∧ ¬ ∃ n : ℤ, exact x = n) ∧
    ((∃ n : ℤ, Numeral.read? (Value.real x).literal.toList = some (.integer n) ∧ RoundsTo n x) ↔
      x.isFinite ∧ ∃ n : ℤ, exact x = n) ∧
    (Numeral.read? (Value.real x).literal.toList = none ↔ ¬ x.isFinite) := by
  have placed (before after : List Char) (split : f.template.toList = before ++ '?' :: after)
      (counted : before.count '?' = values.length) :=
        Fragment.toList_inlined_of_split split counted bound
  have place (balanced : e.Balanced) (parts : ∀ part ∈ s.expressions, part.Balanced) :
      ∃ before after,
        f.template.toList = before ++ '?' :: after ∧ before.count '?' = values.length := by
    rcases compiled with rfl | rfl
    · exact (e.writesTo_writtenOut Value.literal balanced).exists_place bound
    · exact (s.writesTo_mapExprs fun part member =>
        part.writesTo_writtenOut Value.literal (parts part member)).exists_place bound
  refine ⟨placed, place, ?_⟩
  by_cases finite : x.isFinite = true
  · obtain ⟨number, read, rounds, real⟩ := Number.read?_literal finite
    rw [read]
    cases number with
    | integer n =>
      have integral : ∃ n : ℤ, exact x = n := by
        by_contra fraction
        exact real.2 fraction
      refine ⟨iff_of_false ?_ fun fraction => fraction.2 integral,
        iff_of_true ⟨n, rfl, rounds⟩ ⟨finite, integral⟩, iff_of_false nofun (not_not.2 finite)⟩
      rintro ⟨r, ⟨⟩, -⟩
    | real r =>
      have fraction : ¬ ∃ n : ℤ, exact x = n := real.1 trivial
      refine ⟨iff_of_true ⟨r, rfl, rounds⟩ ⟨finite, fraction⟩,
        iff_of_false ?_ fun integral => fraction integral.2, iff_of_false nofun (not_not.2 finite)⟩
      rintro ⟨n, ⟨⟩, -⟩
  · rw [Number.read?_literal_eq_none (Bool.eq_false_iff.2 finite)]
    refine ⟨iff_of_false ?_ fun fraction => finite fraction.1,
      iff_of_false ?_ fun integral => finite integral.1, iff_of_true rfl finite⟩
    · rintro ⟨r, ⟨⟩, -⟩
    · rintro ⟨n, ⟨⟩, -⟩

/-- A fraction behind an integer, in the filter of a statement. -/
theorem inlined_float_is_real_iff_fraction :
    let fraction := Float.ofBits 0x4004000000000000
    let test : Expr :=
      .binary .lt (.bound (.int 7)) (.binary .mul (.bound (.real fraction)) (.column "a"))
    let s := Statement.select ((Query.ofTable "t").restrict test)
    let before := "SELECT * FROM \"t\" WHERE (? < (".toList
    s.fragment.bindings = [.int 7] ++ .real fraction :: [] ∧
      (test.Balanced ∧ ∀ part ∈ s.expressions, part.Balanced) ∧
      s.fragment.template.toList = before ++ '?' :: " * \"a\"))".toList ∧
      s.fragment.inlined.toList = "SELECT * FROM \"t\" WHERE (7 < (2.5 * \"a\"))".toList ∧
      ∃ r, Numeral.read? (Value.real fraction).literal.toList = some (.real r) ∧
        RoundsTo r fraction := by
  intro fraction test s before
  have balanced : test.Balanced := by decide
  have parts : ∀ part ∈ s.expressions, part.Balanced := by decide
  have bound : s.fragment.bindings = [.int 7] ++ .real fraction :: [] := by decide +kernel
  have split : s.fragment.template.toList = before ++ '?' :: " * \"a\"))".toList := by
    decide +kernel
  have number : exact fraction = 5 / 2 := by decide +kernel
  have broken : ¬ ∃ n : ℤ, exact fraction = n := by
    rintro ⟨n, whole⟩
    have twice : (2 * n : ℤ) = 5 := by
      rw [number] at whole
      have cast : (2 * n : ℚ) = 5 := by rw [← whole]; norm_num
      exact_mod_cast cast
    omega
  obtain ⟨placed, -, real, -⟩ :=
    inlined_float_is_real_iff test s s.fragment (.inr rfl) [.int 7] [] fraction bound
  have text := placed before " * \"a\"))".toList split (by decide)
  exact ⟨bound, ⟨balanced, parts⟩, split, text.trans (by decide +kernel),
    real.2 ⟨by decide +kernel, broken⟩⟩

/-- Both operands of a division of floats become integers. -/
theorem whole_floats_become_integers :
    let seven := Float.ofBits 0x401C000000000000
    let two := Float.ofBits 0x4000000000000000
    let e : Expr := .binary .div (.bound (.real seven)) (.bound (.real two))
    e.fragment.template = "(? / ?)" ∧ e.fragment.bindings = [.real seven, .real two] ∧
      e.fragment.inlined = "(7 / 2)" ∧
      Numeral.read? (Value.real seven).literal.toList = some (.integer 7) ∧
      Numeral.read? (Value.real two).literal.toList = some (.integer 2) := by
  decide +kernel

end TypedSql
