import Mathlib.Data.Nat.Digits.Defs
import TypedSql.Text.Decimal

namespace TypedSql.Text

theorem isDigit_of_mem_decimal {n : Nat} {c : Char} (member : c ∈ decimal n) : c.isDigit = true :=
  Nat.isDigit_of_mem_toDigits (by decide) (by decide) member

theorem decimal_ne_nil (n : Nat) : decimal n ≠ [] :=
  Nat.toDigits_ne_nil

theorem decimal_eq_cons (n : Nat) :
    ∃ first rest, decimal n = first :: rest ∧ first.isDigit = true := by
  obtain ⟨first, rest, shape⟩ := List.exists_cons_of_ne_nil (decimal_ne_nil n)
  exact ⟨first, rest, shape, isDigit_of_mem_decimal (shape ▸ List.mem_cons_self)⟩

theorem readNat?_decimal (n : Nat) : readNat? (decimal n) = some n := by
  have digits : (decimal n).all Char.isDigit := List.all_eq_true.2 fun c => isDigit_of_mem_decimal
  rw [readNat?, if_pos ⟨decimal_ne_nil n, digits⟩, natOfDigits_decimal]

theorem digit_lt_ten {c : Char} (digit : c.isDigit = true) :
    '0'.toNat ≤ c.toNat ∧ c.toNat - '0'.toNat < 10 := by
  simp only [Char.isDigit, Bool.and_eq_true, decide_eq_true_eq, ge_iff_le, UInt32.le_iff_toNat_le]
    at digit
  change '0'.toNat ≤ c.toNat ∧ c.toNat ≤ '9'.toNat at digit
  simp only [Char.reduceToNat] at digit ⊢
  omega

theorem toUpper_of_isDigit {c : Char} (digit : c.isDigit = true) : c.toUpper = c := by
  obtain ⟨_, value⟩ := digit_lt_ten digit
  unfold Char.toUpper
  rw [dif_neg]
  rintro ⟨low, _⟩
  rw [UInt32.le_iff_toNat_le] at low
  change 'a'.toNat ≤ c.toNat at low
  simp only [Char.reduceToNat] at value low
  omega

section Padded
variable {width n : Nat}

theorem isDigit_of_mem_zeroPadded {c : Char} (member : c ∈ zeroPadded width n) :
    c.isDigit = true := by
  rcases List.mem_append.1 member with zero | digit
  · rw [List.eq_of_mem_replicate zero]
    decide
  · exact isDigit_of_mem_decimal digit

theorem length_zeroPadded (positive : 0 < width) (fits : n < 10 ^ width) :
    (zeroPadded width n).length = width := by
  have short : (decimal n).length ≤ width := Nat.toDigits_length 10 n width positive fits
  simp [zeroPadded, short]

theorem zeroPadded_ne_nil (width n : Nat) : zeroPadded width n ≠ [] :=
  List.append_ne_nil_of_right_ne_nil _ (decimal_ne_nil n)

theorem natOfDigits_zeroPadded (width n : Nat) : natOfDigits (zeroPadded width n) = n := by
  have zeros (count : Nat) :
      (List.replicate count '0').foldl (fun n c => 10 * n + (c.toNat - '0'.toNat)) 0 = 0 := by
    induction count with
    | zero => rfl
    | succ count ih => simpa [List.replicate_succ] using ih
  have number := natOfDigits_decimal n
  unfold natOfDigits at number ⊢
  rw [zeroPadded, List.foldl_append, zeros, number]

end Padded

/-- Digits are taken up to the limit, or up to what is no digit. -/
theorem takeDigits_append_of_digits {limit : Nat} {digits rest : List Char}
    (each : ∀ c ∈ digits, c.isDigit = true)
    (fits : digits.length ≤ limit)
    (ends : digits.length = limit ∨ ∀ c ∈ rest.head?, c.isDigit = false) :
    takeDigits limit (digits ++ rest) = (digits, rest) := by
  induction digits generalizing limit with
  | nil =>
    rcases ends with full | stop
    · subst full
      rfl
    · cases limit with
      | zero => rfl
      | succ limit =>
        cases rest with
        | nil => rfl
        | cons c rest => simp [takeDigits, stop c rfl]
  | cons c digits ih =>
    obtain ⟨first, others⟩ := List.forall_mem_cons.1 each
    cases limit with
    | zero => simp at fits
    | succ limit =>
      have rests := ih others (Nat.le_of_succ_le_succ fits) (ends.imp_left Nat.succ.inj)
      simp [takeDigits, first, rests]

theorem natOfDigits_cons (c : Char) (digits : List Char) :
    natOfDigits (c :: digits) =
      (c.toNat - '0'.toNat) * 10 ^ digits.length + natOfDigits digits := by
  have fold (start : Nat) : digits.foldl (fun n c => 10 * n + (c.toNat - '0'.toNat)) start =
      start * 10 ^ digits.length + natOfDigits digits := by
    unfold natOfDigits
    induction digits generalizing start with
    | nil => simp
    | cons d digits ih =>
      rw [List.foldl_cons, List.foldl_cons, ih, ih (10 * 0 + _), List.length_cons, Nat.pow_succ']
      simp only [Nat.mul_zero, Nat.zero_add, Nat.add_mul, Nat.add_assoc, Nat.mul_left_comm start 10,
        Nat.mul_assoc]
  rw [natOfDigits, List.foldl_cons, fold]
  simp

section Runs
variable {digits others : List Char}

theorem natOfDigits_lt (each : ∀ c ∈ digits, c.isDigit = true) :
    natOfDigits digits < 10 ^ digits.length := by
  induction digits with
  | nil => decide
  | cons c digits ih =>
    obtain ⟨first, rest⟩ := List.forall_mem_cons.1 each
    have behind := ih rest
    have bound : (c.toNat - '0'.toNat + 1) * 10 ^ digits.length ≤ 10 * 10 ^ digits.length :=
      Nat.mul_le_mul_right _ (digit_lt_ten first).2
    rw [natOfDigits_cons, List.length_cons, Nat.pow_succ']
    rw [Nat.succ_mul] at bound
    omega

theorem lt_pow_length_decimal (n : Nat) : n < 10 ^ (decimal n).length := by
  have small := natOfDigits_lt fun _ => isDigit_of_mem_decimal (n := n)
  rwa [natOfDigits_decimal] at small

/-- Of two numbers in positional notation, the one with the greater first digit is greater. -/
theorem positional_lt_iff {base a b m n : Nat} (small : m < base) (small' : n < base) :
    a * base + m < b * base + n ↔ a < b ∨ a = b ∧ m < n := by
  rcases Nat.lt_trichotomy a b with less | rfl | greater
  · have step : (a + 1) * base ≤ b * base := Nat.mul_le_mul_right _ less
    rw [Nat.succ_mul] at step
    omega
  · omega
  · have step : (b + 1) * base ≤ a * base := Nat.mul_le_mul_right _ greater
    rw [Nat.succ_mul] at step
    omega

theorem lt_iff_natOfDigits_lt (each : ∀ c ∈ digits, c.isDigit = true)
    (each' : ∀ c ∈ others, c.isDigit = true)
    (same : digits.length = others.length) :
    digits < others ↔ natOfDigits digits < natOfDigits others := by
  induction digits generalizing others with
  | nil =>
    obtain rfl := List.length_eq_zero_iff.1 same.symm
    simp
  | cons c digits ih =>
    cases others with
    | nil => cases same
    | cons d others =>
      obtain ⟨first, rest⟩ := List.forall_mem_cons.1 each
      obtain ⟨first', rest'⟩ := List.forall_mem_cons.1 each'
      have length : digits.length = others.length := Nat.succ.inj same
      have small := natOfDigits_lt rest
      have small' := natOfDigits_lt rest'
      have low := digit_lt_ten first
      have low' := digit_lt_ten first'
      rw [length] at small
      rw [natOfDigits_cons, natOfDigits_cons, length, positional_lt_iff small small',
        List.cons_lt_cons_iff, ih rest rest' length]
      have lt_iff : c < d ↔ c.toNat - '0'.toNat < d.toNat - '0'.toNat := by
        rw [Char.lt_def, UInt32.lt_iff_toNat_lt]
        change c.toNat < d.toNat ↔ _
        omega
      have eq_iff : c = d ↔ c.toNat - '0'.toNat = d.toNat - '0'.toNat := by
        rw [← Char.toNat_inj]
        omega
      rw [lt_iff, eq_iff]

theorem eq_of_natOfDigits_eq (each : ∀ c ∈ digits, c.isDigit = true)
    (each' : ∀ c ∈ others, c.isDigit = true)
    (same : digits.length = others.length) (number : natOfDigits digits = natOfDigits others) :
    digits = others := by
  have notLess := (lt_iff_natOfDigits_lt each each' same).not.2 (by omega)
  have notMore := (lt_iff_natOfDigits_lt each' each same.symm).not.2 (by omega)
  exact List.le_antisymm (List.not_lt.1 notMore) (List.not_lt.1 notLess)

/-- A run without needless zeros in front is the padded form of its number. -/
theorem zeroPadded_natOfDigits {width : Nat} (positive : 0 < width)
    (each : ∀ c ∈ digits, c.isDigit = true)
    (size : digits.length = width ∨ width < digits.length ∧ digits.head? ≠ some '0') :
    zeroPadded width (natOfDigits digits) = digits := by
  have small := natOfDigits_lt each
  refine eq_of_natOfDigits_eq (fun c => isDigit_of_mem_zeroPadded) each ?length
    (natOfDigits_zeroPadded _ _)
  rcases size with rfl | ⟨longer, notZero⟩
  · exact length_zeroPadded positive small
  · obtain ⟨c, rest, rfl⟩ :=
      List.exists_cons_of_length_pos (Nat.lt_of_le_of_lt (Nat.zero_le width) longer)
    have low := digit_lt_ten (each c List.mem_cons_self)
    have different : c.toNat ≠ '0'.toNat :=
      fun same => notZero (congrArg some (Char.toNat_inj.1 same))
    have large : 10 ^ rest.length ≤ natOfDigits (c :: rest) := by
      rw [natOfDigits_cons]
      exact Nat.le_add_right_of_le (Nat.le_mul_of_pos_left _ (by omega))
    have least : rest.length < (decimal (natOfDigits (c :: rest))).length :=
      (Nat.pow_lt_pow_iff_right (by decide)).1 (Nat.lt_of_le_of_lt large (lt_pow_length_decimal _))
    have most : (decimal (natOfDigits (c :: rest))).length ≤ (c :: rest).length :=
      Nat.toDigits_length 10 _ _ (Nat.succ_pos _) small
    simp only [zeroPadded, List.length_append, List.length_replicate, List.length_cons]
      at longer most ⊢
    omega

end Runs

/-- A run of digits of this length. -/
def Digits (width : Nat) (cs : List Char) : Prop :=
  cs.length = width ∧ ∀ c ∈ cs, c.isDigit = true

theorem digits_zeroPadded {width n : Nat} (positive : 0 < width) (fits : n < 10 ^ width) :
    Digits width (zeroPadded width n) :=
  ⟨length_zeroPadded positive fits, fun _ => isDigit_of_mem_zeroPadded⟩

theorem Digits.exists_eq_zeroPadded {width : Nat} {cs : List Char} (digits : Digits width cs)
    (positive : 0 < width) :
    ∃ n < 10 ^ width, cs = zeroPadded width n := by
  obtain ⟨rfl, each⟩ := digits
  exact ⟨natOfDigits cs, natOfDigits_lt each,
    (zeroPadded_natOfDigits positive each (.inl rfl)).symm⟩

theorem size_zeroPadded {width : Nat} (positive : 0 < width) (n : Nat) :
    (zeroPadded width n).length = width ∨
      width < (zeroPadded width n).length ∧ (zeroPadded width n).head? ≠ some '0' := by
  by_cases fits : n < 10 ^ width
  · exact .inl (length_zeroPadded positive fits)
  · have longer : width < (decimal n).length := by
      by_contra short
      have fewer : 10 ^ (decimal n).length ≤ 10 ^ width :=
        Nat.pow_le_pow_right (by decide) (Nat.le_of_not_lt short)
      exact fits (Nat.lt_of_lt_of_le (lt_pow_length_decimal n) fewer)
    have unpadded : zeroPadded width n = decimal n := by
      rw [zeroPadded, Nat.sub_eq_zero_of_le (Nat.le_of_lt longer), List.replicate_zero,
        List.nil_append]
    rw [unpadded]
    refine .inr ⟨longer, fun zero => ?_⟩
    obtain ⟨first, rest, shape, _⟩ := decimal_eq_cons n
    rw [shape] at zero
    obtain rfl : first = '0' := Option.some.inj zero
    have number := natOfDigits_decimal n
    rw [shape, natOfDigits_cons, Nat.sub_self, Nat.zero_mul, Nat.zero_add] at number
    have small : n < 10 ^ rest.length := by
      rw [← number]
      exact natOfDigits_lt fun c member =>
        isDigit_of_mem_decimal (n := n) (shape ▸ List.mem_cons_of_mem _ member)
    rw [shape, List.length_cons] at longer
    have shorter : (decimal n).length ≤ rest.length := Nat.toDigits_length 10 n _ (by omega) small
    rw [shape, List.length_cons] at shorter
    omega

end TypedSql.Text
