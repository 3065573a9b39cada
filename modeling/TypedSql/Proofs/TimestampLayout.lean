import TypedSql.Proofs.Timestamps
import TypedSql.Value.SqlType

/-! The layout in which points in time are written. Reading accepts more than is written: blanks,
missing zeros, fractions of any length. A text reads as a point in time that is written just so
exactly when it has the written layout, and writing and reading lose what is below the
millisecond, once. -/
namespace TypedSql

namespace Calendar

open Text

/-- A year as it is written: four digits, or more behind a sign and without needless zeros. A
year before 0 has a sign too. -/
inductive WrittenYear : List Char → Prop where
  | plain {digits} (four : Digits 4 digits) : WrittenYear digits
  | early {digits} (each : ∀ c ∈ digits, c.isDigit = true)
      (size : digits.length = 4 ∨ 4 < digits.length ∧ digits.head? ≠ some '0')
      (before : natOfDigits digits ≠ 0) : WrittenYear ('-' :: digits)
  | late {digits} (each : ∀ c ∈ digits, c.isDigit = true)
      (size : 4 < digits.length ∧ digits.head? ≠ some '0') : WrittenYear ('+' :: digits)

/-- A text in which every field has the width that it is written with. -/
inductive Written : List Char → Prop where
  | fields {year month day hour minute second milli} (year' : WrittenYear year)
      (month' : Digits 2 month)
      (day' : Digits 2 day) (hour' : Digits 2 hour) (minute' : Digits 2 minute)
      (second' : Digits 2 second)
      (milli' : Digits 3 milli) :
      Written
      (year ++ '-' :: month ++ '-' :: day ++ 'T' :: hour ++ ':' :: minute ++ ':' :: second ++
      '.' :: milli)

theorem writtenYear_yearText (year : Int) : WrittenYear (yearText year) := by
  have each : ∀ c ∈ zeroPadded 4 year.natAbs, c.isDigit = true := fun _ => isDigit_of_mem_zeroPadded
  have size := size_zeroPadded (by decide : 0 < 4) year.natAbs
  have number := natOfDigits_zeroPadded 4 year.natAbs
  unfold yearText
  by_cases below : year < 0
  · simp only [below, ↓reduceIte]
    exact .early each size (by omega)
  · by_cases long : 9999 < year
    · simp only [below, long, ↓reduceIte]
      refine .late each (size.resolve_left fun four => ?_)
      have small := natOfDigits_lt each
      rw [four, number] at small
      omega
    · simp only [below, long, ↓reduceIte]
      exact .plain (digits_zeroPadded (by decide) (by omega))

theorem WrittenYear.exists_eq_yearText {cs : List Char} (written : WrittenYear cs) :
    ∃ year : Int, cs = yearText year := by
  cases written with
  | plain four =>
    obtain ⟨n, small, rfl⟩ := four.exists_eq_zeroPadded (by decide)
    refine ⟨n, ?_⟩
    rw [yearText, Int.natAbs_natCast, if_neg (by omega), if_neg (by omega)]
  | @early digits each size before =>
    refine ⟨-(natOfDigits digits : Int), ?_⟩
    rw [yearText, if_pos (by omega), Int.natAbs_neg, Int.natAbs_natCast,
      zeroPadded_natOfDigits (by decide) each size]
  | @late digits each size =>
    have padded := zeroPadded_natOfDigits (by decide : 0 < 4) each (.inr size)
    have large : 10 ^ 4 ≤ natOfDigits digits := by
      by_contra small
      have four := length_zeroPadded (by decide : 0 < 4) (Nat.lt_of_not_le small)
      rw [padded] at four
      omega
    refine ⟨natOfDigits digits, ?_⟩
    rw [yearText, Int.natAbs_natCast, if_neg (by omega), if_pos (by omega), padded]

theorem DateFields.written_chars {f : DateFields} (valid : f.Valid) : Written f.chars := by
  obtain ⟨month, day, hour, minute, second⟩ := valid.fits
  exact .fields (writtenYear_yearText f.year) (digits_zeroPadded (by decide) month)
    (digits_zeroPadded (by decide) day) (digits_zeroPadded (by decide) hour)
      (digits_zeroPadded (by decide) minute)
    (digits_zeroPadded (by decide) second) (digits_zeroPadded (by decide) (milli_lt f.nanosecond))

theorem DateFields.chars_settled {f : DateFields} (valid : f.Valid) :
    f.settled.chars = f.chars := by
  by_cases stray : f.IsStray
  · rw [settled_of_isStray stray, chars_eq, chars_eq]
    obtain ⟨leap, -⟩ := stray
    obtain ⟨_, _, _, _, _, fraction⟩ := valid
    have seconds : f.second + 1 + (f.nanosecond - nanosPerSecond) / nanosPerSecond =
        f.second + f.nanosecond / nanosPerSecond := by
      simp only [nanosPerSecond] at leap fraction ⊢
      omega
    have millis : (f.nanosecond - nanosPerSecond) % nanosPerSecond =
        f.nanosecond % nanosPerSecond := by
      simp only [nanosPerSecond] at leap ⊢
      omega
    simp only [seconds, millis]
  · rw [settled_of_not_isStray stray]

theorem chars_withSecond (year : Int) (month day hour minute second : Nat) {milli : Nat}
    (fits : milli < 1000) :
    (withSecond ⟨year, month, day, hour, minute, 0, milli * nanosPerMilli⟩ second).chars =
      laidOut year month day hour minute second milli := by
  rw [DateFields.chars_eq]
  unfold withSecond
  split_ifs with sixty
  · have seconds : 59 + (milli * nanosPerMilli + nanosPerSecond) / nanosPerSecond = second := by
      simp only [nanosPerSecond, nanosPerMilli]
      omega
    have millis : (milli * nanosPerMilli + nanosPerSecond) % nanosPerSecond / nanosPerMilli =
        milli := by
      simp only [nanosPerSecond, nanosPerMilli]
      omega
    simp only [seconds, millis]
  · have seconds : second + milli * nanosPerMilli / nanosPerSecond = second := by
      simp only [nanosPerSecond, nanosPerMilli]
      omega
    have millis : milli * nanosPerMilli % nanosPerSecond / nanosPerMilli = milli := by
      simp only [nanosPerSecond, nanosPerMilli]
      omega
    simp only [seconds, millis]

/-- A text in the written layout is what is written for the fields that it reads as. -/
theorem Written.chars_eq {cs : List Char} (written : Written cs) {f : DateFields}
    (read : DateFields.read? cs = some f) : f.chars = cs := by
  cases written with
  | fields year' month' day' hour' minute' second' milli' =>
    obtain ⟨year, rfl⟩ := year'.exists_eq_yearText
    obtain ⟨month, fits₁, rfl⟩ := month'.exists_eq_zeroPadded (by decide)
    obtain ⟨day, fits₂, rfl⟩ := day'.exists_eq_zeroPadded (by decide)
    obtain ⟨hour, fits₃, rfl⟩ := hour'.exists_eq_zeroPadded (by decide)
    obtain ⟨minute, fits₄, rfl⟩ := minute'.exists_eq_zeroPadded (by decide)
    obtain ⟨second, fits₅, rfl⟩ := second'.exists_eq_zeroPadded (by decide)
    obtain ⟨milli, fits, rfl⟩ := milli'.exists_eq_zeroPadded (by decide)
    change DateFields.read? (laidOut year month day hour minute second milli) = some f at read
    rw [DateFields.read?_laidOut year ⟨fits₁, fits₂, fits₃, fits₄, fits₅⟩ fits] at read
    obtain rfl := Option.some.inj read
    exact chars_withSecond year month day hour minute second fits

namespace DateTime

theorem read?_of_ofText? {s : String} {d : DateTime} (read : ofText? s = some d) :
    DateFields.read? s.toList = some d.toDateFields := by
  obtain ⟨f, fields, made⟩ := Option.bind_eq_some_iff.1 read
  rw [fields, eq_of_ofFields? made]

/-- A text is written for the point in time that it reads as exactly if it has the written
layout. -/
theorem text_eq_iff_written {s : String} {d : DateTime} (read : ofText? s = some d) :
    d.text = s ↔ Written s.toList := by
  constructor
  · rintro rfl
    rw [text, String.toList_ofList]
    exact DateFields.written_chars d.valid
  · intro written
    rw [text, written.chars_eq (read?_of_ofText? read), String.ofList_toList]

theorem text_truncated (d : DateTime) : d.truncated.text = d.text := by
  have seconds : d.nanosecond / nanosPerMilli * nanosPerMilli / nanosPerSecond =
      d.nanosecond / nanosPerSecond := by
    simp only [nanosPerSecond, nanosPerMilli]
    omega
  have millis : d.nanosecond / nanosPerMilli * nanosPerMilli % nanosPerSecond / nanosPerMilli =
      d.nanosecond % nanosPerSecond / nanosPerMilli := by
    simp only [nanosPerSecond, nanosPerMilli]
    omega
  rw [text, text, DateFields.chars_eq, DateFields.chars_eq]
  simp only [truncated, DateFields.truncated, seconds, millis]

/-- A stray leap second and the second that follows it are written alike. -/
theorem text_settled (d : DateTime) : d.settled.text = d.text :=
  congrArg String.ofList (DateFields.chars_settled d.valid)

theorem text_eq_text_iff (d e : DateTime) :
    d.text = e.text ↔ d.settled.truncated = e.settled.truncated := by
  constructor
  · intro same
    have read := ofText?_text d
    rw [same, ofText?_text e] at read
    exact (Option.some.inj read).symm
  · intro same
    rw [← text_settled d, ← text_truncated d.settled, same, text_truncated, text_settled]

end DateTime

end Calendar

end TypedSql
