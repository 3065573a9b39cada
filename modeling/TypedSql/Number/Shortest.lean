/-! The shortest decimal that reads back as a given binary number. The number is
`m * 2 ^ q`; the reals that round to it form an interval, closed exactly when
`m` is even. On the grids of one, two, … seventeen significant digits the two
neighbours of the number are tested, and the first grid with a neighbour inside
the interval gives the digits. All arithmetic is exact, on natural numbers. -/
namespace TypedSql.Number

/-- A positive binary number `significand * 2 ^ exponent`. The gap to the next
number below is half as wide when `narrow` holds. -/
structure BinaryNumber where
  significand : Nat
  exponent : Int
  narrow : Bool
  deriving DecidableEq, Repr

/-- A decimal number `digits * 10 ^ exponent`. -/
structure DecimalNumber where
  digits : Nat
  exponent : Int
  deriving DecidableEq, Repr

/-- The interval of reals that round to a number, over one common denominator. -/
structure RoundingInterval where
  low : Nat
  value : Nat
  high : Nat
  denominator : Nat
  closed : Bool

namespace BinaryNumber

/-- The bounds lie half a gap away on either side. -/
def interval (x : BinaryNumber) : RoundingInterval :=
  let scale := Nat.pow 2 (x.exponent - 2).toNat
  { low := (4 * x.significand - if x.narrow then 1 else 2) * scale
    value := 4 * x.significand * scale
    high := (4 * x.significand + 2) * scale
    denominator := Nat.pow 2 (2 - x.exponent).toNat
    closed := x.significand % 2 == 0 }

end BinaryNumber

namespace RoundingInterval

/-- Whether the point `n` of the grid `10 ^ exponent` lies in the interval. -/
def contains (i : RoundingInterval) (n : Nat) (exponent : Int) : Bool :=
  let point := n * Nat.pow 10 exponent.toNat * i.denominator
  let unit := Nat.pow 10 (-exponent).toNat
  if i.closed then i.low * unit ≤ point && point ≤ i.high * unit
  else i.low * unit < point && point < i.high * unit

/-- The decimal exponent `e` with `10 ^ (e - 1) ≤ value < 10 ^ e`, for values of at
least `10 ^ (-330)`. -/
def magnitude (i : RoundingInterval) : Int :=
  ((Nat.toDigits 10 (i.value * Nat.pow 10 330 / i.denominator)).length : Int) - 330

/-- The neighbour of the value on the grid of so many significant digits that lies
in the interval; of two such neighbours the nearer one, and the upper one when
both are equally near. -/
def onGrid? (i : RoundingInterval) (digits : Nat) : Option DecimalNumber :=
  let exponent := i.magnitude - digits
  let unit := Nat.pow 10 exponent.toNat * i.denominator
  let scaled := i.value * Nat.pow 10 (-exponent).toNat
  let below := scaled / unit
  match i.contains below exponent, i.contains (below + 1) exponent with
  | true, false => some ⟨below, exponent⟩
  | false, true => some ⟨below + 1, exponent⟩
  | true, true => some ⟨if 2 * (scaled % unit) < unit then below else below + 1, exponent⟩
  | false, false => none

end RoundingInterval

namespace DecimalNumber

/-- Moves trailing zeros of the digits into the exponent. -/
def stripped (x : DecimalNumber) : DecimalNumber :=
  go (Nat.toDigits 10 x.digits).length x
where
  /-- Moves at most `fuel` zeros. -/
  go : Nat → DecimalNumber → DecimalNumber
    | 0, x => x
    | fuel + 1, x =>
      if x.digits ≠ 0 ∧ x.digits % 10 = 0 then go fuel ⟨x.digits / 10, x.exponent + 1⟩ else x

end DecimalNumber

/-- The shortest decimal that rounds to the number. -/
def shortest (x : BinaryNumber) : DecimalNumber :=
  let i := x.interval
  let found := (List.range 17).findSome? fun n => i.onGrid? (n + 1)
  (found.getD ⟨i.value / i.denominator, 0⟩).stripped

end TypedSql.Number
