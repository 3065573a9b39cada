import Mathlib.Tactic.FieldSimp
import TypedSql.Proofs.Digits
import TypedSql.Proofs.Number.Rounding

/-! The digits that a number is written with. On the grid of seventeen significant digits a
neighbour of the number lies in its rounding interval, so digits are always found, and what
they denote rounds to the number. Their exponent is negative exactly when the number is not
whole. -/
namespace TypedSql.Number

theorem ten_ne_zero : (10 : ℚ) ≠ 0 := by norm_num

def DecimalNumber.value (x : DecimalNumber) : ℚ :=
  x.digits * 10 ^ x.exponent

theorem zpow_eq_div {base : ℚ} (nonzero : base ≠ 0) (exponent : ℤ) :
    base ^ exponent = base ^ exponent.toNat / base ^ (-exponent).toNat := by
  have split : exponent = (exponent.toNat : ℤ) - ((-exponent).toNat : ℤ) := by omega
  conv_lhs => rw [split, zpow_sub₀ nonzero, zpow_natCast, zpow_natCast]

theorem zpow_eq_pow {base : ℚ} {exponent : ℤ} (whole : 0 ≤ exponent) :
    base ^ exponent = base ^ exponent.toNat := by
  rw [← zpow_natCast, Int.toNat_of_nonneg whole]

theorem pow_length_decimal {n : ℕ} (positive : 0 < n) :
    10 ^ ((Nat.toDigits 10 n).length - 1) ≤ n ∧ n < 10 ^ (Nat.toDigits 10 n).length := by
  refine ⟨?_, Text.lt_pow_length_decimal n⟩
  by_contra small
  have least : (Nat.toDigits 10 n).length - 1 ≠ 0 := by
    intro zero
    rw [zero] at small
    omega
  have short := Nat.toDigits_length 10 n _ (Nat.pos_of_ne_zero least) (Nat.lt_of_not_le small)
  omega

theorem zpow_length_decimal {v : ℚ} {n shift : ℕ} (least : 1 ≤ v * 10 ^ shift)
    (floor : n ≤ v * 10 ^ shift ∧ v * 10 ^ shift < n + 1) :
    (10 : ℚ) ^ ((Nat.toDigits 10 n).length - shift - 1 : ℤ) ≤ v ∧
      v < 10 ^ ((Nat.toDigits 10 n).length - shift : ℤ) := by
  have positive : 0 < n := by
    have cast : (0 : ℚ) < n := by linarith
    exact_mod_cast cast
  obtain ⟨low, high⟩ := pow_length_decimal positive
  have size : 0 < (Nat.toDigits 10 n).length := List.length_pos_iff.2 Nat.toDigits_ne_nil
  have unit : (0 : ℚ) < 10 ^ shift := by positivity
  have shifted (length : ℕ) : (10 : ℚ) ^ (length - shift : ℤ) = 10 ^ length / 10 ^ shift := by
    rw [zpow_sub₀ (by norm_num), zpow_natCast, zpow_natCast]
  have before : ((Nat.toDigits 10 n).length - shift - 1 : ℤ) =
      ((Nat.toDigits 10 n).length - 1 : ℕ) - shift := by
    omega
  rw [before, shifted, shifted, div_le_iff₀ unit, lt_div_iff₀ unit]
  constructor
  · have cast : (10 : ℚ) ^ ((Nat.toDigits 10 n).length - 1) ≤ n := by exact_mod_cast low
    linarith
  · have cast : (n : ℚ) + 1 ≤ 10 ^ (Nat.toDigits 10 n).length := by exact_mod_cast high
    linarith

theorem div_bounds (a : ℕ) {d : ℕ} (proper : 0 < d) :
    ((a / d : ℕ) : ℚ) ≤ (a : ℚ) / d ∧ (a : ℚ) / d < (a / d : ℕ) + 1 := by
  have denominator : (0 : ℚ) < d := by exact_mod_cast proper
  rw [le_div_iff₀ denominator, div_lt_iff₀ denominator]
  constructor
  · exact_mod_cast Nat.div_mul_le_self a d
  · have above := Nat.lt_mul_div_succ a proper
    rw [Nat.mul_comm] at above
    exact_mod_cast above

theorem findSome?_range {f : ℕ → Option α} {size : ℕ} {found : α}
    (first : (List.range size).findSome? f = some found) :
    ∃ count < size, f count = some found ∧ ∀ other < count, f other = none := by
  induction size with
  | zero => cases first
  | succ size ih =>
    rw [List.range_succ, List.findSome?_append] at first
    cases earlier : (List.range size).findSome? f with
    | some answer =>
      rw [earlier] at first
      obtain ⟨count, less, rest⟩ := ih (earlier.trans first)
      exact ⟨count, Nat.lt_succ_of_lt less, rest⟩
    | none =>
      have last : f size = some found := by simpa [earlier] using first
      refine ⟨size, Nat.lt_succ_self size, last, fun other less => ?_⟩
      exact List.findSome?_eq_none_iff.1 earlier other (List.mem_range.2 less)

namespace DecimalNumber

theorem value_go (fuel : ℕ) (x : DecimalNumber) :
    (stripped.go fuel x).value = x.value ∧ x.exponent ≤ (stripped.go fuel x).exponent := by
  induction fuel generalizing x with
  | zero => exact ⟨rfl, le_rfl⟩
  | succ fuel ih =>
    rw [stripped.go]
    by_cases zero : x.digits ≠ 0 ∧ x.digits % 10 = 0
    · obtain ⟨value, exponent⟩ := ih ⟨x.digits / 10, x.exponent + 1⟩
      have digits : x.digits = 10 * (x.digits / 10) := by omega
      have cast : (x.digits : ℚ) = 10 * (x.digits / 10 : ℕ) := by exact_mod_cast digits
      rw [if_pos zero]
      refine ⟨value.trans ?_, by dsimp only at exponent; omega⟩
      simp only [DecimalNumber.value]
      rw [zpow_add_one₀ ten_ne_zero, cast]
      ring
    · rw [if_neg zero]
      exact ⟨rfl, le_rfl⟩

/-- Zeros at the end of the digits go into the exponent, and the number stays. -/
theorem stripped_spec (x : DecimalNumber) :
    x.stripped.value = x.value ∧ x.exponent ≤ x.stripped.exponent :=
  value_go _ x

end DecimalNumber

namespace RoundingInterval
variable {i : RoundingInterval}

def exact (i : RoundingInterval) : ℚ :=
  i.value / i.denominator

/-- The number lies in the interval, its ends counted as the interval says. -/
def Holds (i : RoundingInterval) (r : ℚ) : Prop :=
  if i.closed then (i.low : ℚ) / i.denominator ≤ r ∧ r ≤ i.high / i.denominator
  else (i.low : ℚ) / i.denominator < r ∧ r < i.high / i.denominator

theorem contains_iff (proper : 0 < i.denominator) (n : ℕ) (exponent : ℤ) :
    i.contains n exponent ↔ i.Holds (n * 10 ^ exponent) := by
  have denominator : (0 : ℚ) < i.denominator := by exact_mod_cast proper
  have unit : (0 : ℚ) < 10 ^ (-exponent).toNat := by positivity
  have lower (bound : ℕ) : (bound : ℚ) / i.denominator ≤ n * 10 ^ exponent ↔
      bound * 10 ^ (-exponent).toNat ≤ n * 10 ^ exponent.toNat * i.denominator := by
    rw [zpow_eq_div ten_ne_zero, ← mul_div_assoc, div_le_div_iff₀ denominator unit]
    norm_cast
  have upper (bound : ℕ) : n * 10 ^ exponent ≤ (bound : ℚ) / i.denominator ↔
      n * 10 ^ exponent.toNat * i.denominator ≤ bound * 10 ^ (-exponent).toNat := by
    rw [zpow_eq_div ten_ne_zero, ← mul_div_assoc, div_le_div_iff₀ unit denominator]
    norm_cast
  unfold contains Holds
  cases i.closed with
  | true => simp [lower, upper]
  | false =>
    have strictly (bound : ℕ) : (bound : ℚ) / i.denominator < n * 10 ^ exponent ↔
        bound * 10 ^ (-exponent).toNat < n * 10 ^ exponent.toNat * i.denominator := by
      rw [← not_le, upper, not_le]
    have strictly' (bound : ℕ) : n * 10 ^ exponent < (bound : ℚ) / i.denominator ↔
        n * 10 ^ exponent.toNat * i.denominator < bound * 10 ^ (-exponent).toNat := by
      rw [← not_le, lower, not_le]
    simp [strictly, strictly']

/-- The digits of the whole part of a multiple tell the size, whichever power of ten it is. -/
theorem zpow_length_scaled (proper : 0 < i.denominator) {scale shift : ℕ}
    (power : Nat.pow 10 shift = scale) (least : 1 ≤ i.exact * 10 ^ shift) :
    (10 : ℚ) ^ ((Nat.toDigits 10 (i.value * scale / i.denominator)).length - shift - 1 : ℤ) ≤
      i.exact ∧
      i.exact < 10 ^ ((Nat.toDigits 10 (i.value * scale / i.denominator)).length - shift : ℤ) := by
  have floor := div_bounds (i.value * scale) proper
  have scaled : ((i.value * scale : ℕ) : ℚ) / i.denominator = i.exact * 10 ^ shift := by
    rw [exact, ← power, Nat.pow_eq, Nat.cast_mul, Nat.cast_pow, Nat.cast_ofNat, div_mul_eq_mul_div]
  rw [scaled] at floor
  exact zpow_length_decimal least floor

theorem magnitude_spec (proper : 0 < i.denominator) (least : 1 ≤ i.exact * 10 ^ 330) :
    (10 : ℚ) ^ (i.magnitude - 1) ≤ i.exact ∧ i.exact < 10 ^ i.magnitude := by
  unfold magnitude
  generalize power : Nat.pow 10 330 = scale
  have bounds := zpow_length_scaled proper power
  exact bounds least

/-- The multiple of a power of ten at the value or right below it. -/
def below (i : RoundingInterval) (exponent : ℤ) : ℕ :=
  i.value * Nat.pow 10 (-exponent).toNat / (Nat.pow 10 exponent.toNat * i.denominator)

theorem below_spec (proper : 0 < i.denominator) (exponent : ℤ) :
    i.below exponent * (10 : ℚ) ^ exponent ≤ i.exact ∧
    i.exact < (i.below exponent + 1) * 10 ^ exponent := by
  have denominator : (0 : ℚ) < i.denominator := by exact_mod_cast proper
  have unit : (0 : ℚ) < 10 ^ exponent := zpow_pos (by norm_num) _
  have floor :=
    div_bounds (i.value * 10 ^ (-exponent).toNat) (d := 10 ^ exponent.toNat * i.denominator)
    (by positivity)
  have scaled : ((i.value * 10 ^ (-exponent).toNat : ℕ) : ℚ) /
    (10 ^ exponent.toNat * i.denominator : ℕ) =
      i.exact / 10 ^ exponent := by
    rw [zpow_eq_div ten_ne_zero, exact]
    push_cast
    field_simp
  rw [scaled, le_div_iff₀ unit, div_lt_iff₀ unit] at floor
  exact floor

theorem onGrid?_eq (i : RoundingInterval) (count : ℕ) {exponent : ℤ}
    (at' : exponent = i.magnitude - count) :
    i.onGrid? count =
      match i.contains (i.below exponent) exponent, i.contains (i.below exponent + 1) exponent with
      | true, false => some ⟨i.below exponent, exponent⟩
      | false, true => some ⟨i.below exponent + 1, exponent⟩
      | true, true =>
        let unit := Nat.pow 10 exponent.toNat * i.denominator
        some ⟨if 2 * (i.value * Nat.pow 10 (-exponent).toNat % unit) < unit then i.below exponent
          else i.below exponent + 1, exponent⟩
      | false, false => none := by
  subst at'
  rfl

theorem onGrid?_eq_some {count : ℕ} {x : DecimalNumber} (found : i.onGrid? count = some x) :
    x.exponent = i.magnitude - count ∧ i.contains x.digits x.exponent := by
  obtain ⟨exponent, at'⟩ : ∃ exponent, exponent = i.magnitude - count := ⟨_, rfl⟩
  rw [onGrid?_eq i count at'] at found
  rw [← at']
  cases lower : i.contains (i.below exponent) exponent <;>
    cases upper : i.contains (i.below exponent + 1) exponent <;> rw [lower, upper] at found
  case false.false => cases found
  case true.true =>
    obtain rfl := Option.some.inj found
    refine ⟨rfl, ?_⟩
    dsimp only
    split
    · exact lower
    · exact upper
  case true.false | false.true =>
    obtain rfl := Option.some.inj found
    exact ⟨rfl, by assumption⟩

/-- A point of the grid next to the value is found if it lies in the interval. -/
theorem isSome_onGrid? {count : ℕ} {exponent : ℤ} (at' : exponent = i.magnitude - count)
    (hit : i.contains (i.below exponent) exponent ∨ i.contains (i.below exponent + 1) exponent) :
    (i.onGrid? count).isSome := by
  rw [onGrid?_eq i count at']
  cases lower : i.contains (i.below exponent) exponent <;>
    cases upper : i.contains (i.below exponent + 1) exponent <;> simp_all

end RoundingInterval

namespace BinaryNumber
variable {x : BinaryNumber}

theorem interval_proper (x : BinaryNumber) : 0 < x.interval.denominator :=
  Nat.pow_pos (by decide)

theorem interval_spec (ok : x.IsBinary64) :
    x.interval.exact = x.value ∧ ∀ r, x.interval.Holds r ↔ x.Rounds r := by
  have quarter : ((2 ^ (x.exponent - 2).toNat : ℕ) : ℚ) / (2 ^ (2 - x.exponent).toNat : ℕ) =
      2 ^ x.exponent / 4 := by
    have split := zpow_eq_div (two_ne_zero : (2 : ℚ) ≠ 0) (x.exponent - 2)
    rw [neg_sub, zpow_sub₀ two_ne_zero] at split
    push_cast
    rw [← split]
    norm_num
  have scaled (n : ℕ) :
    ((n * 2 ^ (x.exponent - 2).toNat : ℕ) : ℚ) / (2 ^ (2 - x.exponent).toNat : ℕ) =
      n * (2 ^ x.exponent / 4) := by
    rw [← quarter, Nat.cast_mul, mul_div_assoc]
  have positive := ok.positive
  have exact : x.interval.exact = x.value := by
    refine (scaled (4 * x.significand)).trans ?_
    rw [value]
    push_cast
    ring
  have high : (x.interval.high : ℚ) / x.interval.denominator = x.value + x.halfAbove := by
    refine (scaled (4 * x.significand + 2)).trans ?_
    rw [value, halfAbove]
    push_cast
    ring
  have low : (x.interval.low : ℚ) / x.interval.denominator = x.value - x.halfBelow := by
    refine (scaled (4 * x.significand - if x.narrow then 1 else 2)).trans ?_
    have fits : (if x.narrow then 1 else 2) ≤ 4 * x.significand := by
      split <;> omega
    rw [value, halfBelow, Nat.cast_sub fits]
    split <;> push_cast <;> ring
  refine ⟨exact, fun r => ?_⟩
  unfold RoundingInterval.Holds Rounds
  rw [low, high]
  simp [interval]

theorem contains_iff (ok : x.IsBinary64) (n : ℕ) (exponent : ℤ) :
    x.interval.contains n exponent ↔ x.Rounds (n * 10 ^ exponent) := by
  rw [RoundingInterval.contains_iff x.interval_proper, (interval_spec ok).2]

/-- The least number is `2 ^ (-1074)`, and `2 ^ 33` is less than `10 ^ 10`. -/
theorem one_le_value_mul (ok : x.IsBinary64) : 1 ≤ x.value * 10 ^ 330 := by
  obtain ⟨count, same⟩ : ∃ count : ℕ, count = 33 := ⟨_, rfl⟩
  have power : (2 : ℚ) ^ (33 * count) ≤ 10 ^ (10 * count) := by
    rw [pow_mul, pow_mul]
    exact pow_le_pow_left₀ (by norm_num) (by norm_num) count
  have least : ((2 : ℚ) ^ (33 * count))⁻¹ ≤ 2 ^ x.exponent := by
    rw [← zpow_natCast, ← zpow_neg]
    exact zpow_le_zpow_right₀ one_le_two (by have := ok.least; omega)
  have one : (1 : ℚ) ≤ x.significand := by exact_mod_cast ok.positive
  have smallest : ((2 : ℚ) ^ (33 * count))⁻¹ ≤ x.value :=
    least.trans (le_mul_of_one_le_left x.unit_pos.le one)
  have exponent : 330 = 10 * count := by omega
  rw [exponent]
  calc (1 : ℚ) = (2 ^ (33 * count))⁻¹ * 2 ^ (33 * count) := (inv_mul_cancel₀ (by positivity)).symm
    _ ≤ x.value * 10 ^ (10 * count) := mul_le_mul smallest power (by positivity) ok.value_pos.le

theorem magnitude_spec (ok : x.IsBinary64) :
    (10 : ℚ) ^ (x.interval.magnitude - 1) ≤ x.value ∧ x.value < 10 ^ x.interval.magnitude := by
  rw [← (interval_spec ok).1]
  exact RoundingInterval.magnitude_spec x.interval_proper
    ((interval_spec ok).1 ▸ one_le_value_mul ok)

theorem lt_halves (ok : x.IsBinary64) :
    x.value / 2 ^ 54 ≤ x.halfBelow ∧ x.value / 2 ^ 54 < x.halfAbove := by
  have unit := x.unit_pos
  have bounded : (x.significand : ℚ) < 2 ^ 53 := by exact_mod_cast ok.bounded
  have most := mul_lt_mul_of_pos_right bounded unit
  unfold halfBelow halfAbove value
  constructor
  · by_cases narrow : x.narrow
    · rw [if_pos narrow, (ok.narrow_iff.1 narrow).1]
      push_cast
      linarith
    · rw [if_neg narrow]
      linarith
  · linarith

/-- On the grid of seventeen digits a neighbour of the number rounds to it. -/
theorem isSome_onGrid?_seventeen (ok : x.IsBinary64) : (x.interval.onGrid? 17).isSome := by
  obtain ⟨exponent, at'⟩ : ∃ exponent, exponent = x.interval.magnitude - 17 := ⟨_, rfl⟩
  have unit : (10 : ℚ) ^ exponent ≤ x.value / 10 ^ 16 := by
    have split : exponent = x.interval.magnitude - 1 - 16 := by omega
    rw [split, zpow_sub₀ ten_ne_zero]
    exact div_le_div_of_nonneg_right (magnitude_spec ok).1 (by norm_num)
  obtain ⟨low, high⟩ := RoundingInterval.below_spec x.interval_proper exponent
  rw [(interval_spec ok).1] at low high
  obtain ⟨below, above⟩ := lt_halves ok
  have positive := ok.value_pos
  refine RoundingInterval.isSome_onGrid? at' ?_
  rw [contains_iff ok, contains_iff ok]
  by_cases near : x.value - x.interval.below exponent * 10 ^ exponent ≤ 10 ^ exponent / 2
  · left
    exact rounds_of_lt (by linarith) (by linarith)
  · right
    push_cast
    exact rounds_of_lt (by linarith) (by linarith)

theorem isSome_onGrid?_whole (ok : x.IsBinary64) {n count : ℕ} (whole : x.value = n)
    (digits : (count : ℤ) = x.interval.magnitude) : (x.interval.onGrid? count).isSome := by
  obtain ⟨low, high⟩ := RoundingInterval.below_spec x.interval_proper 0
  rw [(interval_spec ok).1, whole, zpow_zero, mul_one] at low high
  have same : x.interval.below 0 = n := by
    have least : x.interval.below 0 ≤ n := by exact_mod_cast low
    have most : n < x.interval.below 0 + 1 := by exact_mod_cast high
    omega
  have at' : 0 = x.interval.magnitude - count := by omega
  refine RoundingInterval.isSome_onGrid? at' (.inl ?_)
  rw [contains_iff ok, same, zpow_zero, mul_one, ← whole]
  exact x.rounds_value

/-- The first grid with a neighbour that rounds to the number gives the digits. -/
theorem shortest_spec (ok : x.IsBinary64) :
    ∃ count ≤ 17, ∃ found, x.interval.onGrid? count = some found ∧
    shortest x = found.stripped ∧ ∀ other < count, 0 < other → x.interval.onGrid? other = none := by
  have some' : ((List.range 17).findSome? fun n => x.interval.onGrid? (n + 1)).isSome := by
    rw [List.findSome?_isSome_iff]
    exact ⟨16, List.mem_range.2 (by decide), isSome_onGrid?_seventeen ok⟩
  obtain ⟨found, first⟩ := Option.isSome_iff_exists.1 some'
  obtain ⟨index, less, answer, earlier⟩ := findSome?_range first
  refine ⟨index + 1, less, found, answer, ?_, fun other before positive => ?_⟩
  · rw [shortest, first, Option.getD_some]
  · have none := earlier (other - 1) (by omega)
    rwa [Nat.sub_add_cancel positive] at none

theorem rounds_shortest (ok : x.IsBinary64) : x.Rounds (shortest x).value := by
  obtain ⟨count, -, found, answer, same, -⟩ := shortest_spec ok
  rw [same, found.stripped_spec.1]
  exact (contains_iff ok _ _).1 (RoundingInterval.onGrid?_eq_some answer).2

/-- A whole number that rounds to `x` is `x`, unless all numbers of its size are whole. -/
theorem whole_of_rounds {n : ℕ} (rounds : x.Rounds n) : ∃ whole : ℕ, x.value = whole := by
  by_cases fraction : x.exponent < 0
  · have unit := x.unit_pos
    have halves := x.halfBelow_bounds
    have within := rounds.bounds
    have multiple : (n : ℚ) = (n * 2 ^ (-x.exponent).toNat : ℕ) * 2 ^ x.exponent := by
      have inverse : (2 : ℚ) ^ (-x.exponent).toNat * 2 ^ x.exponent = 1 := by
        rw [← zpow_natCast, ← zpow_add₀ two_ne_zero, Int.toNat_of_nonneg (by omega), neg_add_cancel,
          zpow_zero]
      rw [Nat.cast_mul, Nat.cast_pow, Nat.cast_ofNat, mul_assoc, inverse, mul_one]
    generalize n * 2 ^ (-x.exponent).toNat = count at multiple
    unfold halfAbove at halves within
    rw [value] at within ⊢
    rw [multiple] at within
    rcases Nat.lt_trichotomy count x.significand with less | same | more
    · have step := x.add_unit_le less
      linarith
    · exact ⟨n, by rw [multiple, same]⟩
    · have step := x.add_unit_le more
      linarith
  · refine ⟨x.significand * 2 ^ x.exponent.toNat, ?_⟩
    rw [value, zpow_eq_pow (not_lt.1 fraction)]
    push_cast
    rfl

theorem magnitude_pos_of_whole (ok : x.IsBinary64) {n : ℕ} (whole : x.value = n) :
    0 < x.interval.magnitude := by
  by_contra small
  have positive := ok.value_pos
  have below : x.value < 1 :=
    (magnitude_spec ok).2.trans_le (zpow_le_one_of_nonpos₀ (by norm_num) (not_lt.1 small))
  rw [whole] at positive below
  have least : 0 < n := by exact_mod_cast positive
  have most : n < 1 := by exact_mod_cast below
  omega

/-- The digits reach behind the point exactly when the number does. -/
theorem shortest_exponent_neg_iff (ok : x.IsBinary64) :
    (shortest x).exponent < 0 ↔ ¬ ∃ n : ℕ, x.value = n := by
  constructor
  · rintro negative ⟨n, whole⟩
    obtain ⟨count, few, found, answer, same, earlier⟩ := shortest_spec ok
    have exponent := found.stripped_spec.2
    have grid := (RoundingInterval.onGrid?_eq_some answer).1
    have more := magnitude_pos_of_whole ok whole
    rw [same] at negative
    -- the grid of its own digits has the number, so no finer one was needed
    obtain ⟨size, digits⟩ := Int.eq_ofNat_of_zero_le more.le
    have hit := isSome_onGrid?_whole ok whole digits.symm
    rw [earlier size (by omega) (by omega)] at hit
    cases hit
  · intro fraction
    by_contra positive
    have rounds := rounds_shortest ok
    rw [DecimalNumber.value, zpow_eq_pow (not_lt.1 positive)] at rounds
    exact fraction (whole_of_rounds (by exact_mod_cast rounds))

end BinaryNumber

end TypedSql.Number
