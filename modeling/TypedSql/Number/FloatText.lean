import TypedSql.Number.Shortest
import TypedSql.Text.Decimal

/-! Decimal text of a binary64 number. The digits are the shortest that read back;
a `FloatLayout` says where the point goes and when an exponent is written. -/
namespace TypedSql.Number

/-- The weight of the sign in a word. -/
def signUnit : Nat := 0x8000000000000000

/-- The weight of the exponent in a word, which is also the weight of the leading digit
of a significand. -/
def fractionUnit : Nat := 0x10000000000000

/-- The exponent field that marks what is no finite number. -/
def lastExponent : Nat := 0x7FF

/-- The sign of a word: set for negative numbers and for negative zero. -/
def isNegative (x : Float) : Bool :=
  decide (signUnit ≤ x.toBits.toNat)

/-- The number without its sign, when it is finite and not zero. -/
def positive? (x : Float) : Option BinaryNumber :=
  let field : Nat := x.toBits.toNat % signUnit / fractionUnit
  let fraction : Nat := x.toBits.toNat % fractionUnit
  if field = lastExponent then none
  else if field = 0 then
    if fraction = 0 then none else some ⟨fraction, -1074, false⟩
  else some ⟨fractionUnit + fraction, (field : Int) - 1075, fraction = 0 ∧ 1 < field⟩

/-- Where numbers are written with an exponent, and whether a whole number keeps a
decimal point. The decimal exponent `e` of a number has
`10 ^ (e - 1) ≤ number < 10 ^ e`. -/
structure FloatLayout where
  scientific : (e : Int) → Bool
  pointZero : Bool

/-- Never an exponent, and no point on whole numbers. -/
def FloatLayout.positional : FloatLayout :=
  ⟨fun _ => false, false⟩

/-- An exponent from `10 ^ 16` on and below `10 ^ (-4)`; whole numbers end in `.0`. -/
def FloatLayout.inspected : FloatLayout :=
  ⟨fun e => 17 ≤ e || e ≤ -4, true⟩

namespace FloatLayout

open Text (decimal signedDecimal)

/-- Digits with the point set by the exponent, filled up with zeros. -/
def fixed (layout : FloatLayout) (x : DecimalNumber) : List Char :=
  let digits := decimal x.digits
  let whole := digits.length + x.exponent
  if 0 ≤ x.exponent then
    digits ++ List.replicate x.exponent.toNat '0' ++ if layout.pointZero then ['.', '0'] else []
  else if 0 < whole then
    digits.take whole.toNat ++ '.' :: digits.drop whole.toNat
  else
    '0' :: '.' :: (List.replicate (-whole).toNat '0' ++ digits)

/-- One digit before the point, and the exponent after an `e`. -/
def exponential (x : DecimalNumber) : List Char :=
  match decimal x.digits with
  | [] => []
  | first :: rest =>
    first :: ((if rest.isEmpty then [] else '.' :: rest) ++
      'e' :: signedDecimal (rest.length + x.exponent))

/-- The text of a number without its sign. -/
def magnitudeText (layout : FloatLayout) (x : Float) : List Char :=
  match positive? x with
  | none => if layout.pointZero then ['0', '.', '0'] else ['0']
  | some n =>
    let d := shortest n
    if layout.scientific ((decimal d.digits).length + d.exponent) then exponential d
    else layout.fixed d

/-- The text of a number; the sign of zero is kept. -/
def text (layout : FloatLayout) (x : Float) : String :=
  if x.isNaN then "NaN"
  else
    let sign := if isNegative x then ['-'] else []
    let body := if x.isInf then ['i', 'n', 'f'] else layout.magnitudeText x
    String.ofList (sign ++ body)

end FloatLayout

end TypedSql.Number
