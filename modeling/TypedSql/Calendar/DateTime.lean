/-! Points in time of the proleptic Gregorian calendar without a zone, to the
nanosecond. A nanosecond count of one second or more is a leap second, which can
follow any second. -/
namespace TypedSql.Calendar

def isLeapYear (year : Int) : Bool :=
  year % 4 = 0 && (year % 100 ≠ 0 || year % 400 = 0)

/-- The length of a month, zero for a number that is no month. -/
def daysInMonth (year : Int) : (month : Nat) → Nat
  | 2 => if isLeapYear year then 29 else 28
  | 4 | 6 | 9 | 11 => 30
  | 1 | 3 | 5 | 7 | 8 | 10 | 12 => 31
  | _ => 0

/-- Nanoseconds in a second. -/
def nanosPerSecond : Nat := 1000000000

/-- Nanoseconds in a millisecond. -/
def nanosPerMilli : Nat := 1000000

/-- The fields of a point in time, in range or not. -/
structure DateFields where
  year : Int
  month : Nat
  day : Nat
  hour : Nat
  minute : Nat
  second : Nat
  nanosecond : Nat
  deriving DecidableEq, Repr

/-- The first year that a date can have. -/
def minYear : Int := -262143

/-- The last year that a date can have. -/
def maxYear : Int := 262142

/-- The fields name a day of the calendar and a time of that day. -/
def DateFields.Valid (f : DateFields) : Prop :=
  (minYear ≤ f.year ∧ f.year ≤ maxYear) ∧ (1 ≤ f.day ∧ f.day ≤ daysInMonth f.year f.month) ∧
    f.hour < 24 ∧ f.minute < 60 ∧ f.second < 60 ∧ f.nanosecond < 2 * nanosPerSecond

instance (f : DateFields) : Decidable f.Valid := by
  unfold DateFields.Valid; infer_instance

/-- A point in time. -/
structure DateTime extends DateFields where
  valid : toDateFields.Valid
  deriving DecidableEq

namespace DateTime

theorem eq_of_toDateFields {d e : DateTime} (same : d.toDateFields = e.toDateFields) : d = e := by
  cases d
  cases e
  cases same
  rfl

def ofFields? (f : DateFields) : Option DateTime :=
  if valid : f.Valid then some ⟨f, valid⟩ else none

theorem ofFields?_toDateFields (d : DateTime) : ofFields? d.toDateFields = some d := by
  simp [ofFields?, d.valid]

theorem eq_of_ofFields? {f : DateFields} {d : DateTime} (made : ofFields? f = some d) :
    d.toDateFields = f := by
  unfold ofFields? at made
  split at made
  · cases made; rfl
  · cases made

end DateTime

end TypedSql.Calendar
