/-! Numbers written in digits: decimal text without and with leading zeros, the
reading of a run of digits, and two hexadecimal digits for a byte. -/
namespace TypedSql.Text

/-- The decimal digits of a number, `0` for zero. -/
def decimal (n : Nat) : List Char :=
  Nat.toDigits 10 n

/-- The decimal digits, filled up with zeros on the left. -/
def zeroPadded (width n : Nat) : List Char :=
  List.replicate (width - (decimal n).length) '0' ++ decimal n

/-- The decimal digits with a minus sign below zero. -/
def signedDecimal (n : Int) : List Char :=
  if n < 0 then '-' :: decimal n.natAbs else decimal n.natAbs

def natText (n : Nat) : String :=
  String.ofList (decimal n)

def intText (n : Int) : String :=
  String.ofList (signedDecimal n)

/-- The number that a run of digits denotes. -/
def natOfDigits (digits : List Char) : Nat :=
  digits.foldl (fun n c => 10 * n + (c.toNat - '0'.toNat)) 0

/-- Splits off the leading digits, at most `limit` of them. -/
def takeDigits : (limit : Nat) → List Char → List Char × List Char
  | 0, cs => ([], cs)
  | _ + 1, [] => ([], [])
  | limit + 1, c :: rest =>
    if c.isDigit then
      let (digits, after) := takeDigits limit rest
      (c :: digits, after)
    else ([], c :: rest)

/-- Reads a whole text of decimal digits, at least one. -/
def readNat? (cs : List Char) : Option Nat :=
  if cs ≠ [] ∧ cs.all Char.isDigit then some (natOfDigits cs) else none

/-- A digit below sixteen, in capitals. -/
def hexDigit (n : Nat) : Char :=
  if n < 10 then Char.ofNat ('0'.toNat + n) else Char.ofNat ('A'.toNat + (n - 10))

/-- The two hexadecimal digits of a byte, in capitals. -/
def hexByte (byte : UInt8) : List Char :=
  [hexDigit (byte.toNat / 16), hexDigit (byte.toNat % 16)]

/-- Written digits denote the number they were written for. -/
theorem natOfDigits_decimal (n : Nat) : natOfDigits (decimal n) = n := by
  have fold : natOfDigits (decimal n) = Nat.ofDigitChars 10 (Nat.toDigits 10 n) 0 := by
    simp [natOfDigits, decimal, Nat.ofDigitChars]
  rw [fold, Nat.ofDigitChars_toDigits (by decide) (by decide)]

end TypedSql.Text
