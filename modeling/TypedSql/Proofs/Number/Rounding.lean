import Mathlib.Algebra.Order.Field.Power
import Mathlib.Tactic.Linarith
import Mathlib.Tactic.Ring
import TypedSql.Number.Shortest

/-! Rounding to the nearest binary number. The numbers are those of binary64 without a bound
on large exponents: fifty-three significant bits, and no bit below `2 ^ (-1074)`. A real number
rounds to the nearest of them, and to the one with an even significand if two are equally
near. Whatever lies in the rounding interval of a number rounds to it. -/
namespace TypedSql.Number

/-- A number of either sign with at most fifty-three significant bits. -/
def Representable (y : ℚ) : Prop :=
  ∃ (significand : ℕ) (exponent : ℤ), significand < 2 ^ 53 ∧ -1074 ≤ exponent ∧
    |y| = significand * 2 ^ exponent

/-- The number nearest to `r` is `v`, and only an even one has another equally near. -/
structure Nearest (r v : ℚ) (even : Prop) : Prop where
  near : ∀ y, Representable y → |r - v| ≤ |r - y|
  tie : ∀ y, Representable y → y ≠ v → |r - v| = |r - y| → even

theorem Representable.neg {y : ℚ} (representable : Representable y) : Representable (-y) := by
  obtain ⟨significand, exponent, bounded, least, size⟩ := representable
  exact ⟨significand, exponent, bounded, least, by rwa [abs_neg]⟩

theorem Nearest.neg {r v : ℚ} {even : Prop} (nearest : Nearest r v even) :
    Nearest (-r) (-v) even := by
  have mirrored (y : ℚ) : |-r - y| = |r - -y| := by
    rw [← abs_neg, neg_sub, sub_neg_eq_add, sub_neg_eq_add, add_comm]
  have same : |-r - -v| = |r - v| := by rw [mirrored, neg_neg]
  constructor
  · intro y representable
    rw [same, mirrored]
    exact nearest.near (-y) representable.neg
  · intro y representable different equal
    rw [same, mirrored] at equal
    exact nearest.tie (-y) representable.neg (fun h => different (by rw [← h, neg_neg])) equal

theorem Nearest.refl (v : ℚ) (even : Prop) : Nearest v v even where
  near y _ := by
    rw [sub_self, abs_zero]
    exact abs_nonneg _
  tie y _ different equal := by
    rw [sub_self, abs_zero, eq_comm, abs_eq_zero, sub_eq_zero] at equal
    exact absurd equal.symm different

namespace BinaryNumber

def value (x : BinaryNumber) : ℚ :=
  x.significand * 2 ^ x.exponent

/-- Half of the gap to the next number above. -/
def halfAbove (x : BinaryNumber) : ℚ :=
  2 ^ x.exponent / 2

/-- Half of the gap to the next number below. -/
def halfBelow (x : BinaryNumber) : ℚ :=
  if x.narrow then 2 ^ x.exponent / 4 else 2 ^ x.exponent / 2

/-- A positive number of fifty-three bits, of fewer only at the least exponent. The gap below
is narrow where the next number below has a smaller exponent. -/
structure IsBinary64 (x : BinaryNumber) : Prop where
  positive : 0 < x.significand
  bounded : x.significand < 2 ^ 53
  least : -1074 ≤ x.exponent
  normal : 2 ^ 52 ≤ x.significand ∨ x.exponent = -1074
  narrow_iff : x.narrow ↔ x.significand = 2 ^ 52 ∧ -1074 < x.exponent

/-- The numbers in the rounding interval, with its ends only if the significand is even. -/
def Rounds (x : BinaryNumber) (r : ℚ) : Prop :=
  if x.significand % 2 = 0 then x.value - x.halfBelow ≤ r ∧ r ≤ x.value + x.halfAbove
  else x.value - x.halfBelow < r ∧ r < x.value + x.halfAbove

variable {x : BinaryNumber}

theorem unit_pos (x : BinaryNumber) : (0 : ℚ) < 2 ^ x.exponent :=
  zpow_pos (by norm_num) _

theorem add_unit_le (x : BinaryNumber) {count more : ℕ} (less : count < more) :
    count * (2 : ℚ) ^ x.exponent + 2 ^ x.exponent ≤ more * 2 ^ x.exponent := by
  have cast : (count : ℚ) + 1 ≤ more := by exact_mod_cast less
  have step := mul_le_mul_of_nonneg_right cast x.unit_pos.le
  rwa [add_mul, one_mul] at step

theorem halfBelow_bounds (x : BinaryNumber) : 0 < x.halfBelow ∧ x.halfBelow ≤ x.halfAbove := by
  have unit := x.unit_pos
  unfold halfBelow halfAbove
  split <;> constructor <;> linarith

theorem Rounds.bounds {r : ℚ} (rounds : x.Rounds r) :
    x.value - x.halfBelow ≤ r ∧ r ≤ x.value + x.halfAbove := by
  unfold Rounds at rounds
  split at rounds
  · exact rounds
  · exact ⟨rounds.1.le, rounds.2.le⟩

theorem rounds_of_lt {r : ℚ} (above : x.value - x.halfBelow < r)
    (below : r < x.value + x.halfAbove) :
    x.Rounds r := by
  unfold Rounds
  split
  · exact ⟨above.le, below.le⟩
  · exact ⟨above, below⟩

theorem rounds_value (x : BinaryNumber) : x.Rounds x.value := by
  have halves := x.halfBelow_bounds
  exact rounds_of_lt (by linarith) (by linarith)

namespace IsBinary64

theorem value_pos (ok : x.IsBinary64) : 0 < x.value :=
  mul_pos (by exact_mod_cast ok.positive) x.unit_pos

/-- A number with a smaller exponent is at least a gap below. -/
theorem le_of_exponent_lt (ok : x.IsBinary64) {significand : ℕ} {exponent : ℤ}
    (bounded : significand < 2 ^ 53) (least : -1074 ≤ exponent) (smaller : exponent < x.exponent) :
    significand * (2 : ℚ) ^ exponent ≤ x.value - 2 * x.halfBelow := by
  have unit := x.unit_pos
  have half : (2 : ℚ) ^ exponent ≤ 2 ^ x.exponent / 2 := by
    rw [div_eq_mul_inv, ← zpow_sub_one₀ two_ne_zero]
    exact zpow_le_zpow_right₀ one_le_two (by omega)
  have most : (significand : ℚ) ≤ 2 ^ 53 - 1 := by
    have succ : significand + 1 ≤ 2 ^ 53 := bounded
    have cast : ((significand + 1 : ℕ) : ℚ) ≤ (2 ^ 53 : ℕ) := by exact_mod_cast succ
    push_cast at cast
    linarith
  have below : significand * (2 : ℚ) ^ exponent ≤ (2 ^ 53 - 1) * (2 ^ x.exponent / 2) :=
    mul_le_mul most half (zpow_pos (by norm_num) _).le (by norm_num)
  have normal : 2 ^ 52 ≤ x.significand := ok.normal.resolve_right (by omega)
  unfold value halfBelow
  by_cases narrow : x.narrow
  · rw [if_pos narrow, (ok.narrow_iff.1 narrow).1]
    push_cast
    linarith
  · have more : 2 ^ 52 + 1 ≤ x.significand := by
      have apart : x.significand ≠ 2 ^ 52 := fun same => narrow (ok.narrow_iff.2 ⟨same, by omega⟩)
      omega
    have cast : (2 ^ 52 + 1 : ℚ) ≤ x.significand := by exact_mod_cast more
    rw [if_neg narrow]
    nlinarith

theorem gap (ok : x.IsBinary64) {y : ℚ} (representable : Representable y)
    (different : y ≠ x.value) :
    x.value + 2 * x.halfAbove ≤ y ∨ y ≤ x.value - 2 * x.halfBelow := by
  have unit := x.unit_pos
  have halves := x.halfBelow_bounds
  have one : (1 : ℚ) ≤ x.significand := by exact_mod_cast ok.positive
  have least : 2 * x.halfAbove ≤ x.value := by
    unfold halfAbove value
    linarith [mul_le_mul_of_nonneg_right one unit.le]
  obtain ⟨significand, exponent, bounded, low, size⟩ := representable
  by_cases negative : y < 0
  · right
    linarith
  rw [abs_of_nonneg (not_lt.1 negative)] at size
  by_cases smaller : exponent < x.exponent
  · right
    rw [size]
    exact ok.le_of_exponent_lt bounded low smaller
  obtain ⟨count, multiple⟩ : ∃ count : ℕ, y = count * 2 ^ x.exponent := by
    refine ⟨significand * 2 ^ (exponent - x.exponent).toNat, ?_⟩
    have split : (2 : ℚ) ^ exponent = 2 ^ (exponent - x.exponent).toNat * 2 ^ x.exponent := by
      rw [← zpow_natCast, ← zpow_add₀ (by norm_num)]
      congr 1
      omega
    rw [size, split]
    push_cast
    ring
  have apart : count ≠ x.significand := by
    rintro rfl
    exact different multiple
  rcases Nat.lt_or_gt_of_ne apart with less | more
  · right
    have step := x.add_unit_le less
    have narrower : 2 * x.halfBelow ≤ 2 ^ x.exponent := by
      have bound := halves.2
      unfold halfAbove at bound
      linarith
    rw [multiple, value]
    linarith
  · left
    have step := x.add_unit_le more
    rw [multiple, value, halfAbove]
    linarith

/-- What lies in the rounding interval rounds to the number. -/
theorem nearest_of_rounds (ok : x.IsBinary64) {r : ℚ} (rounds : x.Rounds r) :
    Nearest r x.value (x.significand % 2 = 0) := by
  have halves := x.halfBelow_bounds
  have within := rounds.bounds
  have near (y : ℚ) (representable : Representable y) (different : y ≠ x.value) :
      |r - x.value| ≤ |r - y| := by
    rcases ok.gap representable different with above | below
    · rw [abs_sub_comm r y, abs_of_nonneg (a := y - r) (by linarith), abs_le]
      constructor <;> linarith
    · rw [abs_of_nonneg (a := r - y) (by linarith), abs_le]
      constructor <;> linarith
  constructor
  · intro y representable
    by_cases same : y = x.value
    · rw [same]
    · exact near y representable same
  · intro y representable different equal
    by_contra odd
    unfold Rounds at rounds
    rw [if_neg odd] at rounds
    have closer : |r - x.value| < |r - y| := by
      rcases ok.gap representable different with above | below
      · rw [abs_sub_comm r y, abs_of_nonneg (a := y - r) (by linarith), abs_lt]
        constructor <;> linarith
      · rw [abs_of_nonneg (a := r - y) (by linarith), abs_lt]
        constructor <;> linarith
    exact closer.ne equal

end IsBinary64

end BinaryNumber

end TypedSql.Number
