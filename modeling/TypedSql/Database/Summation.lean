import TypedSql.Value.Basic

/-! Sums of stored numbers. Integers are added exactly until a fraction joins them or the
sum leaves 64 bits; from then on the sum is a binary64 number, and what rounding
drops is added up beside it. -/
namespace TypedSql.Database

/-- A sum under way. -/
structure Summation where
  whole : Int := 0
  /-- Only integers so far, and their sums fit 64 bits. -/
  exact : Bool := true
  /-- Integers alone have left 64 bits. -/
  overflowed : Bool := false
  sum : Float := 0.0
  dropped : Float := 0.0

namespace Summation

def ofWhole (n : Int) : Float :=
  (Int64.ofInt n).toFloat

/-- Adds a number, and what the addition drops. -/
def addReal (s : Summation) (x : Float) : Summation :=
  let total := s.sum + x
  let dropped :=
    if x.abs < s.sum.abs then (s.sum - total) + x else (x - total) + s.sum
  { s with sum := total, dropped := s.dropped + dropped }

/-- Integers that need more than 52 bits are added in two parts. -/
def parts (n : Int) : Int × Int :=
  if n.natAbs < Number.fractionUnit then (n, 0) else (n - n.tmod 16384, n.tmod 16384)

def addWhole (s : Summation) (n : Int) : Summation :=
  let (large, small) := parts n
  let s := s.addReal (ofWhole large)
  if small = 0 then s else s.addReal (ofWhole small)

/-- Goes on with a binary64 number. -/
def inexact (s : Summation) : Summation :=
  let (large, small) := parts s.whole
  { s with exact := false, sum := ofWhole large, dropped := ofWhole small }

def fits (n : Int) : Bool :=
  Int64.minValue.toInt ≤ n && n ≤ Int64.maxValue.toInt

def addInt (s : Summation) (n : Int) : Summation :=
  if s.exact then
    if fits (s.whole + n) then { s with whole := s.whole + n }
    else { (s.inexact.addWhole n) with overflowed := true }
  else s.addWhole n

/-- Adds a stored value. NULL adds nothing, text and bytes count as zero. -/
def add (s : Summation) : Value → Summation
  | .null => s
  | .int n => s.addInt n.toInt
  | .real x => { ((if s.exact then s.inexact else s).addReal x) with overflowed := false }
  | _ => { ((if s.exact then s.inexact else s).addReal 0.0) with overflowed := false }

def ofValues (values : List Value) : Summation :=
  values.foldl add {}

/-- The sum as a binary64 number. -/
def toReal (s : Summation) : Float :=
  if s.exact then ofWhole s.whole
  else if s.dropped.isNaN || s.dropped.isInf then s.sum
  else s.sum + s.dropped

end Summation

end TypedSql.Database
