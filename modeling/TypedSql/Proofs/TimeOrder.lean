import Mathlib.Data.Prod.Lex
import TypedSql.Proofs.ByteOrder
import TypedSql.Proofs.TimestampLayout

namespace TypedSql

namespace Text

theorem append_lt_append_iff {front front' : List Char} (same : front.length = front'.length)
    (s t : List Char) :
    front ++ s < front' ++ t ↔ front < front' ∨ front = front' ∧ s < t := by
  induction front generalizing front' with
  | nil =>
    obtain rfl := List.length_eq_zero_iff.1 same.symm
    simp
  | cons c front ih =>
    cases front' with
    | nil => cases same
    | cons d front' =>
      rw [List.cons_append, List.cons_append, List.cons_lt_cons_iff, List.cons_lt_cons_iff,
        ih (Nat.succ.inj same), List.cons.injEq]
      tauto

section Padded
variable {width m n : Nat}

theorem zeroPadded_inj : zeroPadded width m = zeroPadded width n ↔ m = n := by
  constructor
  · intro same
    rw [← natOfDigits_zeroPadded width m, same, natOfDigits_zeroPadded]
  · rintro rfl
    rfl

/-- Numbers that fit in the field compare like the texts that begin with the field. -/
theorem zeroPadded_append_lt_iff (positive : 0 < width) (fits : m < 10 ^ width)
    (fits' : n < 10 ^ width)
    (s t : List Char) :
    zeroPadded width m ++ s < zeroPadded width n ++ t ↔ m < n ∨ m = n ∧ s < t := by
  obtain ⟨size, each⟩ := digits_zeroPadded positive fits
  obtain ⟨size', each'⟩ := digits_zeroPadded positive fits'
  have same := size.trans size'.symm
  rw [append_lt_append_iff same, lt_iff_natOfDigits_lt each each' same, natOfDigits_zeroPadded,
    natOfDigits_zeroPadded, zeroPadded_inj]

theorem field_lt_iff (positive : 0 < width) (fits : m < 10 ^ width) (fits' : n < 10 ^ width)
    (mark : Char) (s t : List Char) :
    zeroPadded width m ++ mark :: s < zeroPadded width n ++ mark :: t ↔ m < n ∨ m = n ∧ s < t := by
  rw [zeroPadded_append_lt_iff positive fits fits', List.cons_lt_cons_self]

theorem zeroPadded_lt_iff (positive : 0 < width) (fits : m < 10 ^ width) (fits' : n < 10 ^ width) :
    zeroPadded width m < zeroPadded width n ↔ m < n := by
  simpa using zeroPadded_append_lt_iff positive fits fits' [] []

end Padded
end Text

namespace Calendar

open Text

/-- The days of the year in front of a month. -/
def daysBefore (year : Int) (month : Nat) : Nat :=
  ((List.range month).map (daysInMonth year)).sum

/-- The number of the day in its year. -/
def DateFields.dayOfYear (f : DateFields) : Nat :=
  daysBefore f.year f.month + f.day

/-- The seconds of the day up to the time, a leap second counted as the one in front of it. -/
def DateFields.secondOfDay (f : DateFields) : Nat :=
  (f.hour * 60 + f.minute) * 60 + f.second

theorem daysBefore_succ (year : Int) (month : Nat) :
    daysBefore year (month + 1) = daysBefore year month + daysInMonth year month := by
  simp [daysBefore, List.range_succ]

theorem daysBefore_mono (year : Int) {m n : Nat} (le : m ≤ n) :
    daysBefore year m ≤ daysBefore year n := by
  induction le with
  | refl => exact Nat.le_refl _
  | step _ ih =>
    rw [daysBefore_succ]
    exact Nat.le_add_right_of_le ih

namespace DateFields
variable {f g : DateFields}

theorem dayOfYear_lt_of_month_lt (valid : f.Valid) (valid' : g.Valid) (year : f.year = g.year)
    (month : f.month < g.month) : f.dayOfYear < g.dayOfYear := by
  obtain ⟨_, ⟨_, within⟩, _⟩ := valid
  obtain ⟨_, ⟨first, _⟩, _⟩ := valid'
  calc
    f.dayOfYear ≤ daysBefore f.year (f.month + 1) := by
      rw [daysBefore_succ]
      exact Nat.add_le_add_left within _
    _ ≤ daysBefore g.year g.month := by
      rw [year]
      exact daysBefore_mono _ month
    _ < g.dayOfYear := Nat.lt_add_of_pos_right first

theorem dayOfYear_lt_iff (valid : f.Valid) (valid' : g.Valid) (year : f.year = g.year) :
    f.dayOfYear < g.dayOfYear ↔ f.month < g.month ∨ f.month = g.month ∧ f.day < g.day := by
  rcases Nat.lt_trichotomy f.month g.month with less | same | greater
  · have before := dayOfYear_lt_of_month_lt valid valid' year less
    omega
  · rw [dayOfYear, dayOfYear, year, same]
    omega
  · have behind := dayOfYear_lt_of_month_lt valid' valid year.symm greater
    omega

theorem dayOfYear_eq_iff (valid : f.Valid) (valid' : g.Valid) (year : f.year = g.year) :
    f.dayOfYear = g.dayOfYear ↔ f.month = g.month ∧ f.day = g.day := by
  have less := dayOfYear_lt_iff valid valid' year
  have greater := dayOfYear_lt_iff valid' valid year.symm
  omega

theorem secondOfDay_lt_iff (valid : f.Valid) (valid' : g.Valid) : f.secondOfDay < g.secondOfDay ↔
    f.hour < g.hour ∨
    f.hour = g.hour ∧ (f.minute < g.minute ∨ f.minute = g.minute ∧ f.second < g.second) := by
  obtain ⟨_, _, _, minute, second, _⟩ := valid
  obtain ⟨_, _, _, minute', second', _⟩ := valid'
  rw [secondOfDay, secondOfDay, positional_lt_iff second second', positional_lt_iff minute minute']
  omega

theorem secondOfDay_eq_iff (valid : f.Valid) (valid' : g.Valid) :
    f.secondOfDay = g.secondOfDay ↔
    f.hour = g.hour ∧ f.minute = g.minute ∧ f.second = g.second := by
  have less := secondOfDay_lt_iff valid valid'
  have greater := secondOfDay_lt_iff valid' valid
  omega

end DateFields

/-- The year, the day in it, the second of the day and the nanoseconds, which are a second or
more in a leap second. -/
def DateTime.position (d : DateTime) : Int ×ₗ Nat ×ₗ Nat ×ₗ Nat :=
  toLex (d.year, toLex (d.dayOfYear, toLex (d.secondOfDay, d.nanosecond)))

theorem DateTime.position_injective : Function.Injective DateTime.position := by
  intro d e same
  obtain ⟨⟨year, month, day, hour, minute, second, nanosecond⟩, valid⟩ := d
  obtain ⟨⟨year', month', day', hour', minute', second', nanosecond'⟩, valid'⟩ := e
  simp only [position, toLex_inj, Prod.mk.injEq] at same
  obtain ⟨rfl, ofYear, ofDay, rfl⟩ := same
  obtain ⟨rfl, rfl⟩ := (DateFields.dayOfYear_eq_iff valid valid' rfl).1 ofYear
  obtain ⟨rfl, rfl, rfl⟩ := (DateFields.secondOfDay_eq_iff valid valid').1 ofDay
  rfl

/-- Points in time from early to late. -/
instance : LinearOrder DateTime :=
  LinearOrder.lift' DateTime.position DateTime.position_injective

/-- The first field that differs, from the year down, is smaller. -/
def DateFields.Before (f g : DateFields) : Prop :=
  f.year < g.year ∨
    f.year = g.year ∧ (f.month < g.month ∨ f.month = g.month ∧ (f.day < g.day ∨ f.day = g.day ∧
    (f.hour < g.hour ∨ f.hour = g.hour ∧ (f.minute < g.minute ∨ f.minute = g.minute ∧
      (f.second < g.second ∨ f.second = g.second ∧ f.nanosecond < g.nanosecond)))))

instance (f g : DateFields) : Decidable (f.Before g) := by
  unfold DateFields.Before; infer_instance

theorem DateTime.lt_iff (d e : DateTime) : d < e ↔ d.toDateFields.Before e.toDateFields := by
  change d.position < e.position ↔ _
  simp only [position, Prod.Lex.toLex_lt_toLex, DateFields.Before]
  by_cases year : d.year = e.year
  · rw [DateFields.dayOfYear_lt_iff d.valid e.valid year,
      DateFields.dayOfYear_eq_iff d.valid e.valid year,
      DateFields.secondOfDay_lt_iff d.valid e.valid, DateFields.secondOfDay_eq_iff d.valid e.valid]
    tauto
  · simp only [year, false_and]

theorem yearText_of_four_digits {year : Int} (years : 0 ≤ year ∧ year ≤ 9999) :
    yearText year = zeroPadded 4 year.natAbs := by
  rw [yearText, if_neg (by omega), if_neg (by omega)]

/-- A leap second and its milliseconds are written behind second 59 and all its milliseconds. -/
theorem written_second_lt_iff {f g : DateFields} (valid : f.Valid) (valid' : g.Valid)
    (regular : ¬ f.IsStray) (regular' : ¬ g.IsStray) :
    f.second + f.nanosecond / nanosPerSecond < g.second + g.nanosecond / nanosPerSecond ∨
      f.second + f.nanosecond / nanosPerSecond = g.second + g.nanosecond / nanosPerSecond ∧
        f.nanosecond % nanosPerSecond / nanosPerMilli <
          g.nanosecond % nanosPerSecond / nanosPerMilli ↔
    f.second < g.second ∨
      f.second = g.second ∧ f.truncated.nanosecond < g.truncated.nanosecond := by
  obtain ⟨_, _, _, _, seconds, fraction⟩ := valid
  obtain ⟨_, _, _, _, seconds', fraction'⟩ := valid'
  simp only [DateFields.IsStray, DateFields.truncated, nanosPerSecond, nanosPerMilli, not_and,
    not_not] at regular regular' fraction fraction' ⊢
  omega

/-- The texts of times in four-digit years compare field by field. -/
theorem DateFields.chars_lt_iff {f g : DateFields} (valid : f.Valid) (valid' : g.Valid)
    (regular : ¬ f.IsStray) (regular' : ¬ g.IsStray) (years : 0 ≤ f.year ∧ f.year ≤ 9999)
    (years' : 0 ≤ g.year ∧ g.year ≤ 9999) :
    f.chars < g.chars ↔ f.truncated.Before g.truncated := by
  obtain ⟨month, day, hour, minute, second⟩ := valid.fits
  obtain ⟨month', day', hour', minute', second'⟩ := valid'.fits
  have year_lt : f.year.natAbs < g.year.natAbs ↔ f.year < g.year := by omega
  have year_eq : f.year.natAbs = g.year.natAbs ↔ f.year = g.year := by omega
  rw [chars_eq, chars_eq, laidOut, laidOut, yearText_of_four_digits years,
    yearText_of_four_digits years']
  simp only [List.append_assoc, List.cons_append]
  rw [field_lt_iff (by decide) (by omega) (by omega), field_lt_iff (by decide) month month',
    field_lt_iff (by decide) day day', field_lt_iff (by decide) hour hour',
    field_lt_iff (by decide) minute minute', field_lt_iff (by decide) second second',
    zeroPadded_lt_iff (by decide) (milli_lt _) (milli_lt _),
    written_second_lt_iff valid valid' regular regular', year_lt, year_eq]
  rfl

theorem DateTime.text_lt_iff {d e : DateTime} (years : 0 ≤ d.year ∧ d.year ≤ 9999)
    (years' : 0 ≤ e.year ∧ e.year ≤ 9999) :
    d.text < e.text ↔ d.settled.truncated < e.settled.truncated := by
  have settledYears : 0 ≤ d.settled.year ∧ d.settled.year ≤ 9999 := by
    rwa [settled, DateFields.year_settled]
  have settledYears' : 0 ≤ e.settled.year ∧ e.settled.year ≤ 9999 := by
    rwa [settled, DateFields.year_settled]
  rw [← text_settled d, ← text_settled e, lt_iff, String.lt_iff_toList_lt, text, text,
    String.toList_ofList, String.toList_ofList]
  exact DateFields.chars_lt_iff d.settled.valid e.settled.valid d.valid.not_isStray_settled
    e.valid.not_isStray_settled settledYears settledYears'

end Calendar

end TypedSql
