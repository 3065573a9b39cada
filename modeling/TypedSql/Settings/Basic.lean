import TypedSql.Settings.Json

/-! Settings for opening a database. They come from defaults, from the environment, or
from a JSON document, in which every setting is optional. -/
namespace TypedSql

/-- The database that is opened when none is named: a private one in memory. -/
def defaultUrl : String := "sqlite::memory:"

structure Settings where
  url : String := defaultUrl
  createIfMissing : Bool := true
  foreignKeys : Bool := true
  /-- How long to wait for a locked database, in milliseconds. -/
  busyTimeoutMs : Nat := 5000
  deriving DecidableEq, Repr

namespace Settings

/-- The defaults for a given database. -/
def ofUrl (url : String) : Settings :=
  { url }

/-- The defaults for the database that the environment names, if it names one. -/
def ofEnvironment (url : Option String) : Settings :=
  match url with
  | none => {}
  | some url => ofUrl url

/-- The waiting time in whole seconds, and the nanoseconds beyond them. -/
def busyTimeout (s : Settings) : Nat × Nat :=
  (s.busyTimeoutMs / 1000, s.busyTimeoutMs % 1000 * 1000000)

/-- The settings by name, in order. -/
inductive Field where
  | url
  | createIfMissing
  | foreignKeys
  | busyTimeoutMs
  deriving DecidableEq, Repr

namespace Field

def all : List Field :=
  [url, createIfMissing, foreignKeys, busyTimeoutMs]

def name : Field → String
  | url => "url"
  | createIfMissing => "create_if_missing"
  | foreignKeys => "foreign_keys"
  | busyTimeoutMs => "busy_timeout_ms"

def ofName? (name : String) : Option Field :=
  all.find? fun field => field.name = name

/-- Sets one setting, if the value is of its type. -/
def assign? (field : Field) (value : Json) (s : Settings) : Option Settings :=
  match field with
  | url => value.text?.map fun url => { s with url }
  | createIfMissing => value.bool?.map fun createIfMissing => { s with createIfMissing }
  | foreignKeys => value.bool?.map fun foreignKeys => { s with foreignKeys }
  | busyTimeoutMs => (value.natBelow? UInt64.size).map fun busyTimeoutMs => { s with busyTimeoutMs }

end Field

/-- Sets the settings one after the other, each of them at most once. -/
def assignAll? : List (Field × Json) → Settings → Option Settings
  | [], s => some s
  | (field, value) :: rest, s =>
    if rest.any fun other => other.1 = field then none
    else (field.assign? value s).bind (assignAll? rest)

/-- The settings that an object names; a name that is no setting is passed over. -/
def namedFields? : List (List Nat × Json) → Option (List (Field × Json))
  | [] => some []
  | (key, value) :: rest => do
    let name ← Json.textOfUnits key
    let fields ← namedFields? rest
    match Field.ofName? name with
    | none => return fields
    | some field => return (field, value) :: fields

/-- An object names its settings, an array gives the first ones in order. -/
def ofJson? : Json → Option Settings
  | .object fields => do assignAll? (← namedFields? fields) {}
  | .array items =>
    if items.length ≤ Field.all.length then assignAll? (Field.all.zip items) {} else none
  | _ => none

def ofText? (text : String) : Option Settings := do
  ofJson? (← Json.parse? text)

end Settings

end TypedSql
