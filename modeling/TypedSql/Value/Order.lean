import TypedSql.Value.Basic

/-! The order in which a database compares values: NULL, then numbers by size, then
text by code points, then bytes. -/
namespace TypedSql

/-- A number times `2 ^ 1074`, which makes every binary64 number whole. An infinite
number lies beyond all finite ones. -/
def Number.scaled (x : Float) : Int :=
  let size : Nat := match Number.positive? x with
    | some n => n.significand * Nat.pow 2 (n.exponent + 1074).toNat
    | none => if x.isInf then Nat.pow 2 2100 else 0
  if Number.isNegative x then -(size : Int) else size

namespace Value

/-- A value as the thing it is compared by. -/
inductive SortKey where
  | null
  | number (scaled : Int)
  | text (s : String)
  | blob (bytes : List UInt8)
  deriving DecidableEq

def sortKey : Value → SortKey
  | null => .null
  | int n => .number (n.toInt * Nat.pow 2 1074)
  | real x => .number (Number.scaled x)
  | text s => .text s
  | blob bytes => .blob bytes

/-- Bytes in lexicographic order. -/
def bytesBefore : List UInt8 → List UInt8 → Bool
  | _, [] => false
  | [], _ :: _ => true
  | a :: as, b :: bs => if a = b then bytesBefore as bs else decide (a < b)

/-- Whether the first key comes strictly before the second. -/
def SortKey.before : SortKey → SortKey → Bool
  | null, null => false
  | null, _ => true
  | number _, null => false
  | number m, number n => decide (m < n)
  | number _, _ => true
  | text _, blob _ => true
  | text s, text t => decide (s < t)
  | text _, _ => false
  | blob a, blob b => bytesBefore a b
  | blob _, _ => false

/-- Whether two values count as the same; NULL is the same as NULL here. -/
def same (a b : Value) : Bool :=
  a.sortKey = b.sortKey

def before (a b : Value) : Bool :=
  a.sortKey.before b.sortKey

end Value

end TypedSql
