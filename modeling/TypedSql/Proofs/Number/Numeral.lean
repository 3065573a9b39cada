import TypedSql.Number.FloatText
import TypedSql.Proofs.Literals
import TypedSql.Proofs.Number.ShortestDigits

namespace TypedSql

namespace Text

theorem natOfDigits_append (first second : List Char) :
    natOfDigits (first ++ second) =
      natOfDigits first * 10 ^ second.length + natOfDigits second := by
  induction first with
  | nil => simp [natOfDigits]
  | cons c first ih =>
    rw [List.cons_append, natOfDigits_cons, natOfDigits_cons, ih, List.length_append, Nat.pow_add]
    ring

theorem natOfDigits_zeros (count : ℕ) : natOfDigits (List.replicate count '0') = 0 := by
  induction count with
  | zero => rfl
  | succ count ih => rw [List.replicate_succ, natOfDigits_cons, ih, Nat.sub_self, Nat.zero_mul]

theorem isDigit_of_mem_zeros {count : ℕ} {c : Char} (member : c ∈ List.replicate count '0') :
    c.isDigit = true := by
  rw [List.eq_of_mem_replicate member]
  decide

end Text

namespace Number

open Text (natOfDigits readNat? decimal)

/-- A number as SQL has it from its text. -/
inductive Numeral where
  | integer (n : ℤ)
  | real (r : ℚ)
  deriving DecidableEq

namespace Numeral

/-- The number itself, whichever class it is of. -/
def value : Numeral → ℚ
  | integer n => n
  | real r => r

def neg : Numeral → Numeral
  | integer n => integer (-n)
  | real r => real (-r)

/-- Reads an exponent, which is zero where none is written. -/
def readExponent? : List Char → Option ℤ
  | [] => some 0
  | c :: rest =>
    if c = 'e' ∨ c = 'E' then
      match rest with
      | '-' :: digits => (readNat? digits).map fun (n : ℕ) => -(n : ℤ)
      | '+' :: digits | digits => (readNat? digits).map fun (n : ℕ) => (n : ℤ)
    else none

/-- Reads a whole text as a number without a sign. -/
def readUnsigned? (cs : List Char) : Option Numeral :=
  let whole := cs.takeWhile Char.isDigit
  match cs.dropWhile Char.isDigit with
  | [] => (readNat? whole).map fun (n : ℕ) => integer n
  | '.' :: rest => do
    let fraction := rest.takeWhile Char.isDigit
    let digits ← readNat? (whole ++ fraction)
    let exponent ← readExponent? (rest.dropWhile Char.isDigit)
    return real (digits * 10 ^ (exponent - fraction.length))
  | rest => do
    let digits ← readNat? whole
    let exponent ← readExponent? rest
    return real (digits * 10 ^ exponent)

/-- Reads a whole text as a number, with a sign or without. -/
def read? : List Char → Option Numeral
  | '-' :: rest => (readUnsigned? rest).map neg
  | rest => readUnsigned? rest

/-- Whether SQL takes the number as one of storage class real. -/
def IsReal : Numeral → Prop
  | integer _ => False
  | real _ => True

theorem value_neg (number : Numeral) : number.neg.value = -number.value := by
  cases number <;> simp [neg, value]

theorem isReal_neg (number : Numeral) : number.neg.IsReal ↔ number.IsReal := by
  cases number <;> rfl

section Reading
variable {digits whole fraction : List Char}

/-- A number without a sign stays the number where a sign may stand. -/
theorem read?_of_readUnsigned? {cs : List Char} {number : Numeral}
    (unsigned : readUnsigned? cs = some number) : read? cs = some number := by
  cases cs with
  | nil => exact unsigned
  | cons c rest =>
    by_cases sign : c = '-'
    · subst sign
      contradiction
    · rwa [read?.eq_2]
      rintro rest ⟨⟩
      exact sign rfl

theorem readNat?_of_digits (each : ∀ c ∈ digits, c.isDigit = true) (nonempty : digits ≠ []) :
    readNat? digits = some (natOfDigits digits) := by
  rw [readNat?, if_pos ⟨nonempty, List.all_eq_true.2 each⟩]

theorem readUnsigned?_digits (each : ∀ c ∈ digits, c.isDigit = true) (nonempty : digits ≠ []) :
    readUnsigned? digits = some (.integer (natOfDigits digits)) := by
  have ends : ∀ c ∈ ([] : List Char).head?, c.isDigit = false := nofun
  obtain ⟨taken, left⟩ := Text.span_append each ends
  rw [List.append_nil] at taken left
  simp only [readUnsigned?, taken, left, readNat?_of_digits each nonempty, Option.map_some]

theorem readUnsigned?_point (wholeEach : ∀ c ∈ whole, c.isDigit = true)
    (fractionEach : ∀ c ∈ fraction, c.isDigit = true) (nonempty : whole ++ fraction ≠ []) :
    readUnsigned? (whole ++ '.' :: fraction) =
      some (.real (natOfDigits (whole ++ fraction) * 10 ^ (-fraction.length : ℤ))) := by
  have point : ∀ c ∈ ('.' :: fraction).head?, c.isDigit = false := by
    rintro c ⟨⟩
    decide
  have ends : ∀ c ∈ ([] : List Char).head?, c.isDigit = false := nofun
  obtain ⟨taken, left⟩ := Text.span_append wholeEach point
  obtain ⟨behind, nothing⟩ := Text.span_append fractionEach ends
  rw [List.append_nil] at behind nothing
  have number := readNat?_of_digits (List.forall_mem_append.2 ⟨wholeEach, fractionEach⟩) nonempty
  simp only [readUnsigned?, taken, left, behind, nothing, number, readExponent?, zero_sub,
    Option.bind_eq_bind, Option.bind_some, Option.pure_def]

end Reading

end Numeral

open Numeral (readUnsigned?)

namespace Numeral

/-- What positional notation makes of a decimal number: digits in front of the point alone are
an integer. -/
def ofDecimal (x : DecimalNumber) : Numeral :=
  if 0 ≤ x.exponent then .integer (x.digits * 10 ^ x.exponent.toNat : ℕ) else .real x.value

theorem value_ofDecimal (x : DecimalNumber) : (ofDecimal x).value = x.value := by
  by_cases whole : 0 ≤ x.exponent
  · simp [ofDecimal, whole, value, DecimalNumber.value, zpow_eq_pow whole]
  · simp [ofDecimal, whole, value]

theorem isReal_ofDecimal (x : DecimalNumber) : (ofDecimal x).IsReal ↔ x.exponent < 0 := by
  by_cases whole : 0 ≤ x.exponent
  · simp [ofDecimal, whole, IsReal]
  · simp [ofDecimal, whole, IsReal, not_le.1 whole]

end Numeral

namespace FloatLayout
variable {x : DecimalNumber}

theorem readUnsigned?_fixed_whole (whole : 0 ≤ x.exponent) :
    readUnsigned? (positional.fixed x) =
      some (.integer (x.digits * 10 ^ x.exponent.toNat : ℕ)) := by
  have shape : positional.fixed x = decimal x.digits ++ List.replicate x.exponent.toNat '0' := by
    simp [fixed, whole, positional]
  have each : ∀ c ∈ decimal x.digits ++ List.replicate x.exponent.toNat '0', c.isDigit = true :=
    List.forall_mem_append.2
      ⟨fun _ => Text.isDigit_of_mem_decimal, fun _ => Text.isDigit_of_mem_zeros⟩
  have nonempty : decimal x.digits ++ List.replicate x.exponent.toNat '0' ≠ [] :=
    List.append_ne_nil_of_left_ne_nil (Text.decimal_ne_nil _) _
  rw [shape, Numeral.readUnsigned?_digits each nonempty, Text.natOfDigits_append,
    Text.natOfDigits_decimal, Text.natOfDigits_zeros, List.length_replicate, Nat.add_zero]

theorem readUnsigned?_fixed_point (fraction : x.exponent < 0) :
    readUnsigned? (positional.fixed x) = some (.real x.value) := by
  have digits : ∀ c ∈ decimal x.digits, c.isDigit = true := fun _ => Text.isDigit_of_mem_decimal
  unfold fixed
  simp only [not_le.2 fraction, ↓reduceIte]
  by_cases within : 0 < (decimal x.digits).length + x.exponent
  · obtain ⟨size, same⟩ := Int.eq_ofNat_of_zero_le within.le
    have length : (-(((decimal x.digits).drop size).length : ℤ)) = x.exponent := by
      rw [List.length_drop]
      omega
    have nonempty : (decimal x.digits).take size ++ (decimal x.digits).drop size ≠ [] := by
      rw [List.take_append_drop]
      exact Text.decimal_ne_nil _
    have read :=
      Numeral.readUnsigned?_point (fun c member => digits c (List.mem_of_mem_take member))
      (fun c member => digits c (List.mem_of_mem_drop member)) nonempty
    rw [if_pos within, same, Int.toNat_natCast]
    rwa [List.take_append_drop, Text.natOfDigits_decimal, length] at read
  · have short : 0 ≤ -((decimal x.digits).length + x.exponent) := neg_nonneg.2 (not_lt.1 within)
    obtain ⟨size, same⟩ := Int.eq_ofNat_of_zero_le short
    have each : ∀ c ∈ List.replicate size '0' ++ decimal x.digits, c.isDigit = true :=
      List.forall_mem_append.2 ⟨fun _ => Text.isDigit_of_mem_zeros, digits⟩
    have zero : ∀ c ∈ List.replicate 1 '0', c.isDigit = true := fun _ => Text.isDigit_of_mem_zeros
    have length : (-((List.replicate size '0' ++ decimal x.digits).length : ℤ)) = x.exponent := by
      rw [List.length_append, List.length_replicate]
      omega
    have read := Numeral.readUnsigned?_point zero each (List.cons_ne_nil _ _)
    rw [if_neg within, same, Int.toNat_natCast]
    rw [Text.natOfDigits_append, Text.natOfDigits_append, Text.natOfDigits_zeros,
      Text.natOfDigits_zeros, Text.natOfDigits_decimal, Nat.zero_mul, Nat.zero_mul, Nat.zero_add,
      Nat.zero_add, length] at read
    exact read

theorem readUnsigned?_fixed (x : DecimalNumber) :
    readUnsigned? (positional.fixed x) = some (Numeral.ofDecimal x) := by
  by_cases whole : 0 ≤ x.exponent
  · rw [readUnsigned?_fixed_whole whole, Numeral.ofDecimal, if_pos whole]
  · rw [readUnsigned?_fixed_point (not_le.1 whole), Numeral.ofDecimal, if_neg whole]

end FloatLayout

end Number

end TypedSql
