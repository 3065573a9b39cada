import TypedSql.Settings.Json

namespace TypedSql.Database

/-- The bytes of a text in which `%` and two hexadecimal digits stand for a byte. -/
def percentBytes : List Char → List UInt8
  | [] => []
  | '%' :: a :: b :: rest =>
    match Json.hexValue? a, Json.hexValue? b with
    | some high, some low => UInt8.ofNat (16 * high + low) :: percentBytes rest
    | _, _ => UInt8.ofNat '%'.toNat :: percentBytes (a :: b :: rest)
  | c :: rest => (String.singleton c).toUTF8.toList ++ percentBytes rest

def textOfBytes? (bytes : List UInt8) : Option String :=
  String.fromUTF8? ⟨bytes.toArray⟩

/-- The text before the first mark, and the text behind it if the mark is there. -/
def cutAt (mark : Char) (cs : List Char) : List Char × Option (List Char) :=
  match cs.dropWhile (· ≠ mark) with
  | [] => (cs, none)
  | _ :: after => (cs.takeWhile (· ≠ mark), some after)

/-- The pairs of a query string, each cut at its first equals sign. -/
def queryPairs (query : List Char) : List (List Char × List Char) :=
  (query.splitOn '&').map fun pair =>
    let (name, value) := cutAt '=' pair
    (name, value.getD [])

/-- The parameters behind the question mark of a URL, where a plus sign is a space. A
name or value that is no text is left out. -/
def formParameters (query : List Char) : List (Option String × Option String) :=
  let decoded (cs : List Char) : Option String :=
    textOfBytes? (percentBytes (cs.map fun c => if c = '+' then ' ' else c))
  ((query.splitOn '&').filter fun pair => !pair.isEmpty).map fun pair =>
    let (name, value) := cutAt '=' pair
    (decoded name, decoded (value.getD []))

/-- A file name with the parameters that it carries. -/
structure FileName where
  path : List UInt8
  parameters : List (List UInt8 × List UInt8) := []
  deriving DecidableEq, Repr

namespace FileName

/-- The bytes of a part of a name. A byte zero ends the part. -/
def part (cs : List Char) : List UInt8 :=
  (percentBytes cs).takeWhile (· ≠ 0)

/-- Reads what stands behind `file:`. An authority is empty or the local host; a number
sign ends the name. -/
def ofUri? (cs : List Char) : Option FileName := do
  let cs ← match cs with
    | '/' :: '/' :: rest =>
      if rest.takeWhile (· ≠ '/') ∈ [[], "localhost".toList] then some (rest.dropWhile (· ≠ '/'))
      else none
    | _ => some cs
  let (path, query) := cutAt '?' (cs.takeWhile (· ≠ '#'))
  let parameters := ((query.map queryPairs).getD []).map fun (name, value) =>
    (part name, part value)
  return { path := part path, parameters := parameters.filter fun (name, _) => !name.isEmpty }

/-- A plain name stands for itself, one that begins with `file:` is read. -/
def ofText? (text : String) : Option FileName :=
  if "file:".toList.isPrefixOf text.toList then ofUri? (text.toList.drop 5)
  else some { path := text.toUTF8.toList }

end FileName

end TypedSql.Database
