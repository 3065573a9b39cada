import TypedSql.Database.Journal
import TypedSql.Text.Decimal
import TypedSql.Text.Quoted

/-! SQL text cut into tokens. Every token keeps the text it was cut from, blanks before
it included, so no part of the text is lost. -/
namespace TypedSql.Database

inductive Token where
  /-- A keyword or a bare identifier. -/
  | word (text : String)
  /-- An identifier between double quotes. -/
  | name (text : String)
  | number (n : Nat)
  /-- Bytes in pairs of hexadecimal digits between the quotes of an `X`. -/
  | blob (bytes : List UInt8)
  | placeholder
  | symbol (text : String)
  deriving DecidableEq, Repr

/-- A token with the text it was cut from. -/
structure Lexeme where
  token : Token
  source : List Char
  deriving DecidableEq

def isBlank (c : Char) : Bool :=
  c = ' ' || c = '\t' || c = '\n' || c = '\r' || c = '\x0c'

/-- Bare identifiers are made of letters, digits, underscores, dollar signs and
characters beyond ASCII, and do not begin with a digit or a dollar sign. -/
def isWordStart (c : Char) : Bool :=
  c.isAlpha || c = '_' || 0x80 ≤ c.toNat

def isWordChar (c : Char) : Bool :=
  isWordStart c || c.isDigit || c = '$'

/-- The symbols of two characters. -/
def longSymbols : List (Char × Char) :=
  [('<', '='), ('>', '='), ('!', '='), ('<', '>')]

/-- The symbols of one character. -/
def shortSymbols : List Char :=
  ['(', ')', ',', '*', '=', '<', '>', ';', '.']

/-- Reads the digits of bytes and the quote behind them. -/
def readBlob (cs : List Char) : Option (Token × List Char) :=
  match cs.dropWhile (· ≠ '\'') with
  | [] => none
  | _ :: after => (Journal.bytes? (cs.takeWhile (· ≠ '\''))).map fun bytes => (.blob bytes, after)

/-- Reads the token at the front of the text. -/
def readToken : List Char → Option (Token × List Char)
  | [] => none
  | 'x' :: '\'' :: rest | 'X' :: '\'' :: rest => readBlob rest
  | c :: rest =>
    if isWordStart c then
      some (.word (String.ofList (c :: rest.takeWhile isWordChar)), rest.dropWhile isWordChar)
    else if c.isDigit then
      let digits := c :: rest.takeWhile Char.isDigit
      let after := rest.dropWhile Char.isDigit
      if (after.head?.map isWordChar).getD false then none
      else some (.number (Text.natOfDigits digits), after)
    else if c = '"' then
      (Text.readQuoted '"' rest).map fun (text, after) => (.name (String.ofList text), after)
    else if c = '?' then some (.placeholder, rest)
    else
      match rest with
      | d :: after =>
        if (c, d) ∈ longSymbols then some (.symbol (String.ofList [c, d]), after)
        else if c ∈ shortSymbols then some (.symbol (String.ofList [c]), rest)
        else none
      | [] => if c ∈ shortSymbols then some (.symbol (String.ofList [c]), []) else none

/-- Cuts at most `fuel` tokens. -/
def lexemesUpTo : (fuel : Nat) → List Char → Option (List Lexeme)
  | 0, cs => if (cs.dropWhile isBlank).isEmpty then some [] else none
  | fuel + 1, cs =>
    match cs.dropWhile isBlank with
    | [] => some []
    | front => do
      let (token, after) ← readToken front
      let lexemes ← lexemesUpTo fuel after
      return ⟨token, cs.take (cs.length - after.length)⟩ :: lexemes

/-- All tokens of a text; each takes a character at least. A text holds no character of
code point zero. -/
def lexemes (text : String) : Option (List Lexeme) :=
  if text.toList.contains (Char.ofNat 0) then none else lexemesUpTo text.length text.toList

/-- The text that a run of tokens was cut from, without the blanks before it. -/
def sourceText (run : List Lexeme) : String :=
  String.ofList ((run.flatMap Lexeme.source).dropWhile isBlank)

end TypedSql.Database
