import TypedSql.Calendar.DateTime
import TypedSql.Text.Blank
import TypedSql.Text.Decimal

/-! The text of a point in time, `year-month-dayThour:minute:second.millisecond`.
Written, every field has a fixed width and the fraction three digits; a leap
second is written as the second after the one that it follows. Read, a number may
follow blanks and drop its leading zeros, the fraction may be absent or of any
length, and only second 60 is a leap second. -/
namespace TypedSql.Calendar

open Text

/-- A year has four digits at least, and a sign outside 0 to 9999. -/
def yearText (year : Int) : List Char :=
  let digits := zeroPadded 4 year.natAbs
  if year < 0 then '-' :: digits else if 9999 < year then '+' :: digits else digits

/-- The written form, with the nanoseconds cut down to whole milliseconds. -/
def DateFields.chars (f : DateFields) : List Char :=
  yearText f.year ++ '-' :: zeroPadded 2 f.month ++ '-' :: zeroPadded 2 f.day ++
    'T' :: zeroPadded 2 f.hour ++ ':' :: zeroPadded 2 f.minute ++
    ':' :: zeroPadded 2 (f.second + f.nanosecond / nanosPerSecond) ++
    '.' :: zeroPadded 3 (f.nanosecond % nanosPerSecond / nanosPerMilli)

def DateTime.text (d : DateTime) : String :=
  String.ofList d.toDateFields.chars

/-- Reads what follows a separator. -/
def readMark (mark : Char) : List Char → Option (List Char)
  | [] => none
  | c :: rest => if c = mark then some rest else none

/-- Reads a number of at most `limit` digits. -/
def readDigits (limit : Nat) (cs : List Char) : Option (Nat × List Char) :=
  match takeDigits limit cs with
  | ([], _) => none
  | (digits, rest) => some (natOfDigits digits, rest)

/-- Reads a field of one or two digits, after blanks. -/
def readField (cs : List Char) : Option (Nat × List Char) :=
  readDigits 2 (skipBlanks cs)

/-- Reads a year, after blanks: at most four digits, or a sign and any number of
digits. -/
def readYear (cs : List Char) : Option (Int × List Char) :=
  match skipBlanks cs with
  | '-' :: rest => (readDigits rest.length rest).map fun (n, after) => (-(n : Int), after)
  | '+' :: rest => (readDigits rest.length rest).map fun (n, after) => ((n : Int), after)
  | rest => (readDigits 4 rest).map fun (n, after) => ((n : Int), after)

/-- Reads a fraction as nanoseconds, zero when there is none. Digits after the
ninth are dropped. -/
def readFraction : List Char → Option (Nat × List Char)
  | '.' :: rest =>
    match takeDigits 9 rest with
    | ([], _) => none
    | (digits, after) =>
      some (natOfDigits digits * Nat.pow 10 (9 - digits.length), after.dropWhile Char.isDigit)
  | rest => some (0, rest)

/-- Second 60 is the leap second after second 59. -/
def withSecond (f : DateFields) (second : Nat) : DateFields :=
  if second = 60 then { f with second := 59, nanosecond := f.nanosecond + nanosPerSecond }
  else { f with second := second }

def DateFields.read? (cs : List Char) : Option DateFields := do
  let (year, cs) ← readYear cs
  let (month, cs) ← readField (← readMark '-' cs)
  let (day, cs) ← readField (← readMark '-' cs)
  let (hour, cs) ← readField (← readMark 'T' cs)
  let (minute, cs) ← readField (← readMark ':' cs)
  let (second, cs) ← readField (← readMark ':' cs)
  let (nanosecond, cs) ← readFraction cs
  if cs.isEmpty then
    some (withSecond ⟨year, month, day, hour, minute, 0, nanosecond⟩ second)
  else none

/-- The point in time that a text denotes, if it denotes one. -/
def DateTime.ofText? (text : String) : Option DateTime := do
  DateTime.ofFields? (← DateFields.read? text.toList)

end TypedSql.Calendar
