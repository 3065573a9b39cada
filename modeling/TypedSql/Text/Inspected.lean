import TypedSql.Text.Decimal
import TypedSql.Text.Shapeless

/-! Text and lists as they are shown in messages: text between double quotes on one
line, with every character that could not be seen written as an escape. -/
namespace TypedSql.Text

/-- The digits of a number to the base sixteen, in small letters. -/
def hexNumber (n : Nat) : List Char :=
  Nat.toDigits 16 n

/-- A character as it stands between double quotes. -/
def inspectedChar (c : Char) : List Char :=
  if c = '"' then ['\\', '"']
  else if c = '\\' then ['\\', '\\']
  else if c = '\n' then ['\\', 'n']
  else if c = '\r' then ['\\', 'r']
  else if c = '\t' then ['\\', 't']
  else if c.toNat = 0 then ['\\', '0']
  else if isShapeless c then ['\\', 'u', '{'] ++ hexNumber c.toNat ++ ['}']
  else [c]

def inspected (text : String) : String :=
  String.ofList ('"' :: (text.toList.flatMap inspectedChar ++ ['"']))

/-- Items between brackets. -/
def bracketed (items : List String) : String :=
  "[" ++ ", ".intercalate items ++ "]"

end TypedSql.Text
