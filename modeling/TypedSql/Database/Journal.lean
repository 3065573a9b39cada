import TypedSql.Fragment
import TypedSql.Settings.Json

/-! The text of a database file: a JSON array of the changes that made the database, each
an object with the statement under `execute` and its values under `bindings`. -/
namespace TypedSql.Database

namespace Journal

/-- The first field of a name. -/
def field? (name : String) (fields : List (List Nat × Json)) : Option Json :=
  (fields.find? fun (key, _) => Json.textOfUnits key = some name).map Prod.snd

/-- An integer in decimal digits. -/
def int? (text : String) : Option Int64 := do
  let n ← match text.toList with
    | '-' :: digits => (Text.readNat? digits).map fun n => -(n : Int)
    | digits => (Text.readNat? digits).map fun n => (n : Int)
  if Int64.minValue.toInt ≤ n ∧ n ≤ Int64.maxValue.toInt then some (Int64.ofInt n) else none

/-- The bytes of pairs of hexadecimal digits. -/
def bytes? : List Char → Option (List UInt8)
  | [] => some []
  | [_] => none
  | a :: b :: rest => do
    let byte := 16 * (← Json.hexValue? a) + (← Json.hexValue? b)
    return UInt8.ofNat byte :: (← bytes? rest)

/-- A binary64 number by its eight bytes, the most significant first. -/
def real? (text : String) : Option Float := do
  let bytes ← bytes? text.toList
  if bytes.length = 8 then
    some (Float.ofBits (UInt64.ofNat (bytes.foldl (fun n byte => 256 * n + byte.toNat) 0)))
  else none

/-- A value: null, or an object of one field that is named for the storage class. -/
def value? : Json → Option Value
  | .null => some .null
  | .object [(key, content)] => do
    let name ← Json.textOfUnits key
    let text ← content.text?
    match name with
    | "int" => (int? text).map .int
    | "float" => (real? text).map .real
    | "text" => some (.text text)
    | "blob" => (bytes? text.toList).map .blob
    | _ => none
  | _ => none

def change? : Json → Option Fragment
  | .object fields => do
    let template ← (← field? "execute" fields).text?
    match field? "bindings" fields with
    | none => return { template }
    | some (.array values) => return { template, bindings := ← values.mapM value? }
    | some _ => none
  | _ => none

end Journal

/-- The changes that the text of a database file holds. An empty file holds none. -/
def changesOfText? (text : String) : Option (List Fragment) :=
  if text.isEmpty then some []
  else
    match Json.parse? text with
    | some (.array changes) => changes.mapM Journal.change?
    | _ => none

end TypedSql.Database
