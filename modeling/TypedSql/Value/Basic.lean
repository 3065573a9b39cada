import TypedSql.Number.FloatText
import TypedSql.Text.Quoted

/-! The values that a database stores, by storage class, and the SQL literal that
writes each of them. -/
namespace TypedSql

/-- A value bound to a placeholder or read from a row. -/
inductive Value where
  | null
  | int (n : Int64)
  | real (x : Float)
  | text (s : String)
  | blob (bytes : List UInt8)
  deriving DecidableEq

namespace Value

def isNull : Value → Bool
  | null => true
  | _ => false

/-- Text stands between single quotes and bytes between the quotes of an `X`. -/
def literal : Value → String
  | null => "NULL"
  | int n => Text.intText n.toInt
  | real x => Number.FloatLayout.positional.text x
  | text s => String.ofList ('\'' :: (Text.replaced '\'' ['\'', '\''] s.toList ++ ['\'']))
  | blob bytes => String.ofList ('X' :: '\'' :: (bytes.flatMap Text.hexByte ++ ['\'']))

end Value

end TypedSql
