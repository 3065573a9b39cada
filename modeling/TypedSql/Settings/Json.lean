import TypedSql.Text.Decimal

/-! JSON documents. A number is kept as it is written, and a string as its UTF-16 code
units, so that half of a surrogate pair can be told from text. -/
namespace TypedSql

inductive Json where
  | null
  | bool (truth : Bool)
  | number (digits : List Char)
  | string (units : List Nat)
  | array (items : List Json)
  | object (fields : List (List Nat × Json))

namespace Json

/-- The UTF-16 code units of a character. -/
def unitsOfChar (c : Char) : List Nat :=
  if c.toNat < 0x10000 then [c.toNat]
  else [0xD800 + (c.toNat - 0x10000) / 0x400, 0xDC00 + (c.toNat - 0x10000) % 0x400]

def isHighSurrogate (unit : Nat) : Bool :=
  0xD800 ≤ unit && unit < 0xDC00

def isLowSurrogate (unit : Nat) : Bool :=
  0xDC00 ≤ unit && unit < 0xE000

/-- The text of a string, unless it has half of a surrogate pair. -/
def charsOfUnits : List Nat → Option (List Char)
  | [] => some []
  | [unit] =>
    if isHighSurrogate unit || isLowSurrogate unit then none else some [Char.ofNat unit]
  | unit :: next :: rest =>
    if isHighSurrogate unit then
      if isLowSurrogate next then
        let code := 0x10000 + (unit - 0xD800) * 0x400 + (next - 0xDC00)
        (charsOfUnits rest).map (Char.ofNat code :: ·)
      else none
    else if isLowSurrogate unit then none
    else (charsOfUnits (next :: rest)).map (Char.ofNat unit :: ·)

def textOfUnits (units : List Nat) : Option String :=
  (charsOfUnits units).map String.ofList

def isSpace (c : Char) : Bool :=
  c = ' ' || c = '\n' || c = '\t' || c = '\r'

def skipSpace (cs : List Char) : List Char :=
  cs.dropWhile isSpace

/-- Reads a given word. -/
def readWord : (word : List Char) → List Char → Option (List Char)
  | [], cs => some cs
  | _ :: _, [] => none
  | w :: word, c :: rest => if c = w then readWord word rest else none

/-- Reads at least one digit. -/
def readDigits (cs : List Char) : Option (List Char × List Char) :=
  let digits := cs.takeWhile Char.isDigit
  if digits.isEmpty then none else some (digits, cs.dropWhile Char.isDigit)

/-- Reads the whole part of a number: no zero before other digits. -/
def readWhole (cs : List Char) : Option (List Char × List Char) := do
  let (digits, rest) ← readDigits cs
  if digits.head? = some '0' && digits.length ≠ 1 then none else some (digits, rest)

/-- Reads the digits after a point, if there is one. -/
def readFraction : List Char → Option (List Char × List Char)
  | '.' :: rest => (readDigits rest).map fun (digits, after) => ('.' :: digits, after)
  | cs => some ([], cs)

/-- Reads an exponent, if there is one. -/
def readExponent : List Char → Option (List Char × List Char)
  | c :: rest =>
    if c = 'e' || c = 'E' then
      match rest with
      | '-' :: after => (readDigits after).map fun (digits, after) => (c :: '-' :: digits, after)
      | '+' :: after => (readDigits after).map fun (digits, after) => (c :: '+' :: digits, after)
      | _ => (readDigits rest).map fun (digits, after) => (c :: digits, after)
    else some ([], c :: rest)
  | [] => some ([], [])

def readNumber (cs : List Char) : Option (List Char × List Char) := do
  let (sign, cs) := match cs with
    | '-' :: rest => (['-'], rest)
    | _ => ([], cs)
  let (whole, cs) ← readWhole cs
  let (fraction, cs) ← readFraction cs
  let (exponent, cs) ← readExponent cs
  return (sign ++ whole ++ fraction ++ exponent, cs)

def hexValue? (c : Char) : Option Nat :=
  if '0' ≤ c && c ≤ '9' then some (c.toNat - '0'.toNat)
  else if 'a' ≤ c && c ≤ 'f' then some (c.toNat - 'a'.toNat + 10)
  else if 'A' ≤ c && c ≤ 'F' then some (c.toNat - 'A'.toNat + 10)
  else none

/-- The code unit that four hexadecimal digits denote. -/
def hexUnit? (a b c d : Char) : Option Nat := do
  return 4096 * (← hexValue? a) + 256 * (← hexValue? b) + 16 * (← hexValue? c) + (← hexValue? d)

/-- The code unit of an escape of one letter. -/
def escapedUnit? (c : Char) : Option Nat :=
  if c = '"' || c = '\\' || c = '/' then some c.toNat
  else if c = 'b' then some 8
  else if c = 't' then some 9
  else if c = 'n' then some 10
  else if c = 'f' then some 12
  else if c = 'r' then some 13
  else none

/-- Reads a string whose opening quote is already taken. -/
def readString : List Char → Option (List Nat × List Char)
  | [] => none
  | '"' :: rest => some ([], rest)
  | '\\' :: 'u' :: a :: b :: c :: d :: rest => do
    let unit ← hexUnit? a b c d
    let (units, after) ← readString rest
    return (unit :: units, after)
  | '\\' :: c :: rest => do
    let unit ← escapedUnit? c
    let (units, after) ← readString rest
    return (unit :: units, after)
  | c :: rest => do
    if c.toNat < 0x20 || c = '\\' then none
    else
      let (units, after) ← readString rest
      return (unitsOfChar c ++ units, after)

mutual

/-- Reads a value, after blanks. -/
def readValue : (fuel : Nat) → List Char → Option (Json × List Char)
  | 0, _ => none
  | fuel + 1, cs =>
    match skipSpace cs with
    | 'n' :: rest => (readWord ['u', 'l', 'l'] rest).map fun after => (null, after)
    | 't' :: rest => (readWord ['r', 'u', 'e'] rest).map fun after => (bool true, after)
    | 'f' :: rest => (readWord ['a', 'l', 's', 'e'] rest).map fun after => (bool false, after)
    | '"' :: rest => (readString rest).map fun (units, after) => (string units, after)
    | '[' :: rest =>
      match skipSpace rest with
      | ']' :: after => some (array [], after)
      | _ => (readItems fuel rest).map fun (items, after) => (array items, after)
    | '{' :: rest =>
      match skipSpace rest with
      | '}' :: after => some (object [], after)
      | _ => (readFields fuel rest).map fun (fields, after) => (object fields, after)
    | rest => (readNumber rest).map fun (digits, after) => (number digits, after)

/-- Reads the items of an array up to its end, one at least. -/
def readItems : (fuel : Nat) → List Char → Option (List Json × List Char)
  | 0, _ => none
  | fuel + 1, cs => do
    let (item, rest) ← readValue fuel cs
    match skipSpace rest with
    | ']' :: after => return ([item], after)
    | ',' :: after =>
      let (items, after) ← readItems fuel after
      return (item :: items, after)
    | _ => none

/-- Reads the fields of an object up to its end, one at least. -/
def readFields : (fuel : Nat) → List Char → Option (List (List Nat × Json) × List Char)
  | 0, _ => none
  | fuel + 1, cs =>
    match skipSpace cs with
    | '"' :: rest => do
      let (key, rest) ← readString rest
      match skipSpace rest with
      | ':' :: rest =>
        let (value, rest) ← readValue fuel rest
        match skipSpace rest with
        | '}' :: after => return ([(key, value)], after)
        | ',' :: after =>
          let (fields, after) ← readFields fuel after
          return ((key, value) :: fields, after)
        | _ => none
      | _ => none
    | _ => none

end

/-- The document that a text holds, with nothing but blanks around it. Every second
call at the latest takes a character, which bounds their number. -/
def parse? (text : String) : Option Json :=
  match readValue (2 * text.length + 1) text.toList with
  | some (value, rest) => if (skipSpace rest).isEmpty then some value else none
  | none => none

/-- A number that is written as a whole number below `bound`, without sign, point or
exponent. -/
def natBelow? (bound : Nat) : Json → Option Nat
  | number digits => (Text.readNat? digits).filter (· < bound)
  | _ => none

def text? : Json → Option String
  | string units => textOfUnits units
  | _ => none

def bool? : Json → Option Bool
  | bool truth => some truth
  | _ => none

end Json

end TypedSql
