import TypedSql.Calendar.Timestamp
import TypedSql.Proofs.Digits

namespace TypedSql.Calendar

open Text

/-- The same fields without what is below the millisecond. -/
def DateFields.truncated (f : DateFields) : DateFields :=
  { f with nanosecond := f.nanosecond / nanosPerMilli * nanosPerMilli }

theorem DateFields.Valid.truncated {f : DateFields} (valid : f.Valid) : f.truncated.Valid := by
  obtain ⟨year, day, hour, minute, second, fraction⟩ := valid
  have fewer : f.truncated.nanosecond ≤ f.nanosecond := Nat.div_mul_le_self _ _
  exact ⟨year, day, hour, minute, second, Nat.lt_of_le_of_lt fewer fraction⟩

def DateTime.truncated (d : DateTime) : DateTime :=
  ⟨d.toDateFields.truncated, d.valid.truncated⟩

/-- A leap second that follows another second than the last of its minute. -/
def DateFields.IsStray (f : DateFields) : Prop :=
  nanosPerSecond ≤ f.nanosecond ∧ f.second ≠ 59

instance (f : DateFields) : Decidable f.IsStray := by
  unfold DateFields.IsStray; infer_instance

/-- The fields with a stray leap second counted as the second after the one that it follows. -/
def DateFields.settled (f : DateFields) : DateFields :=
  if f.IsStray then
    { f with second := f.second + 1, nanosecond := f.nanosecond - nanosPerSecond }
  else f

namespace DateFields
variable {f : DateFields}

theorem settled_of_isStray (stray : f.IsStray) : f.settled =
    { f with second := f.second + 1, nanosecond := f.nanosecond - nanosPerSecond } :=
  if_pos stray

theorem settled_of_not_isStray (regular : ¬ f.IsStray) : f.settled = f :=
  if_neg regular

theorem Valid.settled (valid : f.Valid) : f.settled.Valid := by
  by_cases stray : f.IsStray
  · rw [settled_of_isStray stray]
    obtain ⟨year, day, hour, minute, second, fraction⟩ := valid
    have inMinute : f.second + 1 < 60 := by
      have notLast := stray.2
      omega
    exact ⟨year, day, hour, minute, inMinute, Nat.lt_of_le_of_lt (Nat.sub_le _ _) fraction⟩
  · rwa [settled_of_not_isStray stray]

theorem Valid.not_isStray_settled (valid : f.Valid) : ¬ f.settled.IsStray := by
  by_cases stray : f.IsStray
  · rw [settled_of_isStray stray]
    intro still
    have fraction : f.nanosecond < 2 * nanosPerSecond := valid.2.2.2.2.2
    have long : nanosPerSecond ≤ f.nanosecond - nanosPerSecond := still.1
    omega
  · rwa [settled_of_not_isStray stray]

theorem year_settled (f : DateFields) : f.settled.year = f.year := by
  by_cases stray : f.IsStray
  · rw [settled_of_isStray stray]
  · rw [settled_of_not_isStray stray]

end DateFields

def DateTime.settled (d : DateTime) : DateTime :=
  ⟨d.toDateFields.settled, d.valid.settled⟩

theorem DateTime.settled_of_not_isStray {d : DateTime} (regular : ¬ d.IsStray) : d.settled = d :=
  eq_of_toDateFields (DateFields.settled_of_not_isStray regular)

section Fields
variable {rest : List Char} {n : Nat}

theorem skipBlanks_digits {digits : List Char} (each : ∀ c ∈ digits, c.isDigit = true)
    (some : digits ≠ []) :
    skipBlanks (digits ++ rest) = digits ++ rest := by
  obtain ⟨c, others, rfl⟩ := List.exists_cons_of_ne_nil some
  obtain ⟨low, value⟩ := digit_lt_ten (each c List.mem_cons_self)
  have solid : Text.isBlank c = false := by
    simp only [Char.reduceToNat] at low value
    simp only [Text.isBlank, blankRanges, List.any_cons, List.any_nil, Bool.or_false,
      Bool.or_eq_false_iff, Bool.and_eq_false_iff, decide_eq_false_iff_not]
    omega
  simp [skipBlanks, solid]

theorem readDigits_zeroPadded {limit width : Nat} (fits : (zeroPadded width n).length ≤ limit)
    (ends : (zeroPadded width n).length = limit ∨ ∀ c ∈ rest.head?, c.isDigit = false) :
    readDigits limit (zeroPadded width n ++ rest) = some (n, rest) := by
  have taken := takeDigits_append_of_digits (fun c => isDigit_of_mem_zeroPadded) fits ends
  obtain ⟨c, digits, shape⟩ := List.exists_cons_of_ne_nil (zeroPadded_ne_nil width n)
  have number := natOfDigits_zeroPadded width n
  rw [shape] at taken number ⊢
  simp only [readDigits, taken, number]

theorem readField_zeroPadded (fits : n < 100) :
    readField (zeroPadded 2 n ++ rest) = some (n, rest) := by
  have width : (zeroPadded 2 n).length = 2 := length_zeroPadded (by decide) fits
  rw [readField, skipBlanks_digits (fun c => isDigit_of_mem_zeroPadded) (zeroPadded_ne_nil 2 n)]
  exact readDigits_zeroPadded width.le (.inl width)

/-- The sign tells how many digits to read. -/
theorem readYear_yearText (year : Int) :
    readYear (yearText year ++ '-' :: rest) = some (year, '-' :: rest) := by
  have stop : ∀ c ∈ ('-' :: rest).head?, c.isDigit = false := by
    intro c next
    obtain rfl := Option.some.inj next
    decide
  have signed : readDigits (zeroPadded 4 year.natAbs ++ '-' :: rest).length
      (zeroPadded 4 year.natAbs ++ '-' :: rest) = some (year.natAbs, '-' :: rest) :=
    readDigits_zeroPadded (by simp) (.inr stop)
  unfold yearText
  by_cases below : year < 0
  · have negative : -(year.natAbs : Int) = year := by omega
    have mark : skipBlanks ('-' :: (zeroPadded 4 year.natAbs ++ '-' :: rest)) =
        '-' :: (zeroPadded 4 year.natAbs ++ '-' :: rest) := rfl
    simp only [below, ↓reduceIte, List.cons_append, readYear, mark, signed,
      Option.map_some, negative]
  · have positive : (year.natAbs : Int) = year := by omega
    by_cases long : 9999 < year
    · have mark : skipBlanks ('+' :: (zeroPadded 4 year.natAbs ++ '-' :: rest)) =
          '+' :: (zeroPadded 4 year.natAbs ++ '-' :: rest) := rfl
      simp only [below, long, ↓reduceIte, List.cons_append, readYear, mark, signed,
        Option.map_some, positive]
    · have width : (zeroPadded 4 year.natAbs).length = 4 := length_zeroPadded (by decide) (by omega)
      have unsigned : readDigits 4 (zeroPadded 4 year.natAbs ++ '-' :: rest) =
          some (year.natAbs, '-' :: rest) :=
        readDigits_zeroPadded width.le (.inl width)
      have each : ∀ c ∈ zeroPadded 4 year.natAbs, c.isDigit = true :=
        fun c => isDigit_of_mem_zeroPadded
      simp only [below, long, ↓reduceIte, readYear,
        skipBlanks_digits each (zeroPadded_ne_nil 4 year.natAbs)]
      obtain ⟨c, digits, shape⟩ := List.exists_cons_of_ne_nil (zeroPadded_ne_nil 4 year.natAbs)
      have digit : c.isDigit = true := each c (shape ▸ List.mem_cons_self)
      rw [shape] at unsigned ⊢
      split
      · rename_i same
        obtain rfl := (List.cons.inj same).1
        cases digit
      · rename_i same
        obtain rfl := (List.cons.inj same).1
        cases digit
      · rw [unsigned, Option.map_some, positive]

theorem readFraction_zeroPadded (fits : n < 1000) :
    readFraction ('.' :: zeroPadded 3 n) = some (n * nanosPerMilli, []) := by
  have width : (zeroPadded 3 n).length = 3 := length_zeroPadded (by decide) fits
  have taken : takeDigits 9 (zeroPadded 3 n ++ []) = (zeroPadded 3 n, []) :=
    takeDigits_append_of_digits (fun c => isDigit_of_mem_zeroPadded) (by omega) (.inr (by simp))
  obtain ⟨c, digits, shape⟩ := List.exists_cons_of_ne_nil (zeroPadded_ne_nil 3 n)
  have number := natOfDigits_zeroPadded 3 n
  rw [List.append_nil, shape] at taken
  rw [shape] at number width ⊢
  simp only [readFraction, taken, number, width]
  rfl

end Fields

theorem DateFields.Valid.fits {f : DateFields} (valid : f.Valid) :
    f.month < 100 ∧ f.day < 100 ∧ f.hour < 100 ∧ f.minute < 100 ∧
      f.second + f.nanosecond / nanosPerSecond < 100 := by
  obtain ⟨_, ⟨first, last⟩, hour, minute, second, fraction⟩ := valid
  have day : f.month ≤ 12 ∧ f.day ≤ 31 := by
    unfold daysInMonth at last
    split at last
    all_goals first | omega | (split at last <;> omega)
  have leap : f.nanosecond / nanosPerSecond ≤ 1 := by
    simp only [nanosPerSecond] at fraction ⊢
    omega
  omega

/-- What is written for the second tells a leap second at the end of a minute from any other
second. -/
theorem withSecond_written {f : DateFields} (valid : f.Valid) :
    withSecond ⟨f.year, f.month, f.day, f.hour, f.minute, 0,
        f.nanosecond % nanosPerSecond / nanosPerMilli * nanosPerMilli⟩
      (f.second + f.nanosecond / nanosPerSecond) = f.settled.truncated := by
  obtain ⟨_, _, _, _, second, fraction⟩ := valid
  by_cases stray : f.IsStray
  · rw [DateFields.settled_of_isStray stray]
    obtain ⟨leap, notLast⟩ := stray
    have notSixty : f.second + f.nanosecond / nanosPerSecond ≠ 60 := by
      simp only [nanosPerSecond] at fraction ⊢
      omega
    rw [withSecond, if_neg notSixty, DateFields.truncated]
    simp only [nanosPerSecond, nanosPerMilli, DateFields.mk.injEq, true_and] at leap fraction ⊢
    omega
  · rw [DateFields.settled_of_not_isStray stray]
    simp only [DateFields.IsStray, not_and, not_not] at stray
    unfold withSecond DateFields.truncated
    split_ifs with sixty
    all_goals
      simp only [nanosPerSecond, nanosPerMilli, DateFields.mk.injEq, true_and]
        at stray fraction sixty ⊢
      omega

/-- The written form of these numbers. -/
def laidOut (year : Int) (month day hour minute second milli : Nat) : List Char :=
  yearText year ++ '-' :: zeroPadded 2 month ++ '-' :: zeroPadded 2 day ++
    'T' :: zeroPadded 2 hour ++ ':' :: zeroPadded 2 minute ++ ':' :: zeroPadded 2 second ++
    '.' :: zeroPadded 3 milli

theorem DateFields.chars_eq (f : DateFields) :
    f.chars = laidOut f.year f.month f.day f.hour f.minute
      (f.second + f.nanosecond / nanosPerSecond)
      (f.nanosecond % nanosPerSecond / nanosPerMilli) := rfl

theorem DateFields.read?_laidOut (year : Int) {month day hour minute second milli : Nat}
    (fits : month < 100 ∧ day < 100 ∧ hour < 100 ∧ minute < 100 ∧ second < 100)
    (fits' : milli < 1000) :
    read? (laidOut year month day hour minute second milli) =
      some (withSecond ⟨year, month, day, hour, minute, 0, milli * nanosPerMilli⟩ second) := by
  obtain ⟨month, day, hour, minute, second⟩ := fits
  have mark (c : Char) (rest : List Char) : readMark c (c :: rest) = some rest := if_pos rfl
  simp only [read?, laidOut, List.append_assoc, List.cons_append, readYear_yearText, mark,
    readField_zeroPadded, month, day, hour, minute, second, readFraction_zeroPadded fits',
    Option.bind_eq_bind, Option.bind_some, List.isEmpty_nil, ↓reduceIte]

theorem milli_lt (nanosecond : Nat) : nanosecond % nanosPerSecond / nanosPerMilli < 1000 := by
  simp only [nanosPerSecond, nanosPerMilli]
  omega

theorem DateFields.read?_chars {f : DateFields} (valid : f.Valid) :
    read? f.chars = some f.settled.truncated := by
  rw [chars_eq, read?_laidOut f.year valid.fits (milli_lt f.nanosecond), withSecond_written valid]

/-- A written point in time reads back to the millisecond, a stray leap second as the second
that follows it. -/
theorem DateTime.ofText?_text (d : DateTime) : ofText? d.text = some d.settled.truncated := by
  have fields : DateFields.read? d.text.toList = some d.settled.truncated.toDateFields := by
    rw [text, String.toList_ofList]
    exact DateFields.read?_chars d.valid
  rw [ofText?, fields]
  exact ofFields?_toDateFields d.settled.truncated

end TypedSql.Calendar
