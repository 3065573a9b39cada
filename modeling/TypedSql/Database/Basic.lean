import TypedSql.Database.Column

namespace TypedSql

namespace Database

/-- A row under its identifier. -/
structure StoredRow where
  rowid : Int
  values : List Value
  deriving DecidableEq

structure Table where
  name : String
  columns : List ColumnDef
  rows : List StoredRow := []
  deriving DecidableEq

/-- Why a database refuses a request. -/
inductive Refusal where
  | malformed
  | noSuchTable (name : String)
  | noSuchColumn (name : String)
  | tableExists (name : String)
  | reservedName (name : String)
  | duplicateColumn (name : String)
  | severalKeys (table : String)
  | valueCount
  | notNull (column : String)
  | duplicate (column : String)
  | mismatch
  | full
  | unopened (path : String)
  deriving DecidableEq

def Refusal.message : Refusal → String
  | malformed => "syntax error"
  | noSuchTable name => "no such table: " ++ name
  | noSuchColumn name => "no such column: " ++ name
  | tableExists name => "table " ++ name ++ " already exists"
  | reservedName name => "object name reserved for internal use: " ++ name
  | duplicateColumn name => "duplicate column name: " ++ name
  | severalKeys table => "table \"" ++ table ++ "\" has more than one primary key"
  | valueCount => "number of values and columns differ"
  | notNull column => "NOT NULL constraint failed: " ++ column
  | duplicate column => "UNIQUE constraint failed: " ++ column
  | mismatch => "datatype mismatch"
  | full => "database is full"
  | unopened path => "unable to open database file: " ++ path

end Database

/-- The tables of a database, what the last insertion and the last change left behind,
and the settings of the connection to it. -/
structure Database where
  tables : List Database.Table := []
  lastRowid : Int := 0
  lastChanges : Nat := 0
  foreignKeys : Bool := true
  busyTimeoutMs : Nat := 5000
  deriving DecidableEq

namespace Database

def table? (db : Database) (name : String) : Except Refusal Table :=
  match db.tables.find? fun t => sameName t.name name with
  | some t => .ok t
  | none => .error (.noSuchTable name)

/-- Puts a table in the place of the one of its name. -/
def putTable (db : Database) (table : Table) : Database :=
  { db with tables := db.tables.map fun t => if sameName t.name table.name then table else t }

namespace Table

/-- The position of the column that holds the row identifiers, if one does. -/
def keyIndex? (t : Table) : Option Nat :=
  t.columns.findIdx? ColumnDef.isKey

/-- The largest identifier a row can have. -/
def maxRowid : Int := Int64.maxValue.toInt

/-- The identifier after the last one, 1 in an empty table. -/
def nextRowid (t : Table) : Except Refusal Int :=
  match t.rows.getLast? with
  | none => .ok 1
  | some last => if last.rowid < maxRowid then .ok (last.rowid + 1) else .error .full

/-- The identifier that a value asks for; NULL asks for the next one. -/
def rowidFor (t : Table) (requested : Value) : Except Refusal Int :=
  match requested with
  | .null => t.nextRowid
  | value =>
    match wholeNumber? value with
    | some n => .ok n.toInt
    | none => .error .mismatch

/-- A row with its identifier in the place of the key column. -/
def storedRow (t : Table) (rowid : Int) (values : List Value) : StoredRow :=
  match t.keyIndex? with
  | none => ⟨rowid, values⟩
  | some index => ⟨rowid, values.set index (.int (Int64.ofInt rowid))⟩

/-- The first column that must hold a value and holds none. -/
def missingValue? (t : Table) (row : StoredRow) : Option ColumnDef :=
  ((t.columns.zip row.values).find? fun (column, value) => column.notNull && value.isNull).map
    Prod.fst

/-- The name that row identifiers go by. -/
def keyName (t : Table) : String :=
  ((t.columns.find? ColumnDef.isKey).map ColumnDef.name).getD "rowid"

/-- Whether two rows cannot stand side by side, and by which column. -/
def clash? (t : Table) (a b : StoredRow) : Option String :=
  if a.rowid = b.rowid then some t.keyName
  else
    (t.columns.zip (a.values.zip b.values)).findSome? fun (column, x, y) =>
      if column.isDistinct && !x.isNull && x.same y then some column.name else none

/-- What keeps a row from joining the given ones. -/
def obstacle? (t : Table) (others : List StoredRow) (row : StoredRow) : Option Refusal :=
  match t.missingValue? row with
  | some column => some (.notNull (t.name ++ "." ++ column.name))
  | none =>
    (others.findSome? fun other => t.clash? row other).map fun column =>
      .duplicate (t.name ++ "." ++ column)

/-- The row at its place among rows in the order of their identifiers. -/
def placeRow (row : StoredRow) : List StoredRow → List StoredRow
  | [] => [row]
  | other :: rest =>
    if row.rowid < other.rowid then row :: other :: rest else other :: placeRow row rest

end Table

end Database

end TypedSql
