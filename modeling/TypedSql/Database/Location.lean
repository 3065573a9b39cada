import TypedSql.Database.Run
import TypedSql.Database.Uri
import TypedSql.Settings.Basic

/-! Where a database lives, by its URL, and opening it. A file holds the changes that
made its database, and opening it carries them out again. -/
namespace TypedSql.Database

/-- How a file is opened; each way allows what the ones before it allow. -/
inductive Access where
  | readOnly
  | readWrite
  | create
  deriving DecidableEq, Repr

def Access.rank : Access → Nat
  | readOnly => 1
  | readWrite => 2
  | create => 3

/-- A private database in memory, or a file. -/
inductive Location where
  | memory
  | file (path : String) (access : Access)
  deriving DecidableEq, Repr

/-- What a URL asks for. -/
structure Address where
  name : String
  memory : Bool := false
  readOnly : Bool := false
  immutable : Bool := false
  system : Option String := none
  deriving DecidableEq, Repr

/-- Takes a text off the front as often as it is there, `fuel` times at most. -/
def dropRepeated (front : List Char) : (fuel : Nat) → List Char → List Char
  | 0, cs => cs
  | fuel + 1, cs =>
    if !front.isEmpty && front.isPrefixOf cs then dropRepeated front fuel (cs.drop front.length)
    else cs

namespace Address

/-- What one parameter of a URL adds; `none` refuses the URL. -/
def assign? (a : Address) (name value : String) : Option Address :=
  match name, value with
  | "mode", "memory" => some { a with memory := true }
  | "mode", "ro" => some { a with readOnly := true }
  | "mode", "rw" | "mode", "rwc" | "cache", "private" | "cache", "shared" => some a
  | "immutable", "true" | "immutable", "1" => some { a with immutable := true }
  | "immutable", "false" | "immutable", "0" => some { a with immutable := false }
  | "vfs", system => some { a with system := some system }
  | _, _ => none

/-- Reads a URL. The scheme may be absent. -/
def ofUrl? (url : String) : Option Address := do
  let cs := dropRepeated "sqlite://".toList url.length url.toList
  let cs := dropRepeated "sqlite:".toList url.length cs
  let (name, query) := cutAt '?' cs
  let memory := name = ":memory:".toList
  let address : Address := { name := ← textOfBytes? (percentBytes name), memory }
  (formParameters (query.getD [])).foldlM (fun a (name, value) => do a.assign? (← name) (← value))
    address

/-- The file name that is meant. Beside parameters of the URL the name stands for itself. -/
def fileName? (a : Address) : Option FileName :=
  if a.immutable || a.system.isSome then some { path := a.name.toUTF8.toList.takeWhile (· ≠ 0) }
  else if a.name.toList.contains (Char.ofNat 0) then none
  else FileName.ofText? a.name

end Address

/-- The file systems there are. -/
def fileSystems : List String :=
  ["unix", "unix-none", "unix-dotfile", "unix-excl", "memdb"]

/-- How a database is opened, as far as it is known. -/
structure Opening where
  access : Access
  memory : Bool
  system : String := "unix"

/-- What one parameter of a file name adds. It cannot widen the access. -/
def Opening.assign? (o : Opening) (name value : String) : Option Opening :=
  match name, value with
  | "vfs", system => some { o with system }
  | "cache", "private" | "cache", "shared" => some o
  | "cache", _ => none
  | "mode", "memory" => some { o with memory := true }
  | "mode", _ => do
    let access ← [("ro", Access.readOnly), ("rw", .readWrite), ("rwc", .create)].lookup value
    if o.memory || access.rank ≤ o.access.rank then some { o with access, memory := false }
    else none
  | _, _ => some o

/-- The location that a URL names. An empty path is as private as memory. -/
def Location.ofUrl? (createIfMissing : Bool) (url : String) : Option Location := do
  let address ← Address.ofUrl? url
  let name ← address.fileName?
  let access :=
    if address.readOnly then Access.readOnly else if createIfMissing then .create else .readWrite
  let opening : Opening :=
    { access, memory := address.memory, system := address.system.getD "unix" }
  let opening ← name.parameters.foldlM (fun (opening : Opening) (name, value) =>
    opening.assign? ((textOfBytes? name).getD "") ((textOfBytes? value).getD "")) opening
  if opening.system ∉ fileSystems then none
  else if opening.memory || opening.system = "memdb" || name.path.isEmpty ||
      name.path = ":memory:".toUTF8.toList then
    return .memory
  else return .file (← textOfBytes? name.path) opening.access

/-- An empty database under the given settings. -/
def fresh (s : Settings) : Database :=
  { foreignKeys := s.foreignKeys, busyTimeoutMs := s.busyTimeoutMs }

/-- Carries out changes one after the other. A change that fails is passed over. -/
def replay (db : Database) (changes : List Fragment) : Database :=
  changes.foldl (fun db change => (db.run change).2) db

/-- The longest time that a connection can wait, in milliseconds. -/
def maxBusyTimeoutMs : Nat := Int32.maxValue.toInt.toNat

/-- Opens the database that the settings name, given the files there are. A missing file
stays missing unless it may be created. -/
def openWith (files : String → Option (List Fragment)) (s : Settings) : Except Refusal Database :=
  if maxBusyTimeoutMs < s.busyTimeoutMs then .error (.unopened s.url)
  else
    match Location.ofUrl? s.createIfMissing s.url with
    | none => .error (.unopened s.url)
    | some .memory => .ok (fresh s)
    | some (.file path access) =>
      match files path with
      | some changes => .ok { (fresh s).replay changes with lastRowid := 0, lastChanges := 0 }
      | none => if access = .create then .ok (fresh s) else .error (.unopened path)

end TypedSql.Database
