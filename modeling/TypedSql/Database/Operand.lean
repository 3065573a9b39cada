import TypedSql.Database.Request

namespace TypedSql.Database

/-- What a name stands for. The column that holds the row identifiers is the identifier. -/
inductive Operand where
  | column (index : Nat)
  | rowid
  | text (content : String)
  deriving DecidableEq, Repr

/-- The names of the row identifier in every table that has no such column. -/
def rowidNames : List String :=
  ["rowid", "oid", "_rowid_"]

namespace Table

/-- The column or the row identifier that goes by a name. -/
def place? (t : Table) (name : String) : Option Operand :=
  match t.columns.findIdx? fun column => sameName column.name name with
  | some index => some (if t.keyIndex? = some index then .rowid else .column index)
  | none => if rowidNames.any (sameName name) then some .rowid else none

/-- The column or the row identifier that a change is for. -/
def place (t : Table) (name : Name) : Except Refusal Operand :=
  match t.place? name.text with
  | some place => .ok place
  | none => .error (.noSuchColumn name.text)

/-- What a name stands for in a table that goes by `label`. A quoted name that is no
column stands for its own text. -/
def operand (t : Table) (label : String) (name : Name) : Except Refusal Operand :=
  if name.table.any fun table => !sameName table label then .error (.noSuchColumn name.text)
  else
    match t.place? name.text with
    | some place => .ok place
    | none =>
      if name.quoted && name.table.isNone then .ok (.text name.text)
      else .error (.noSuchColumn name.text)

/-- The column that an operand is. -/
def column? (t : Table) : Operand → Option ColumnDef
  | .column index => t.columns[index]?
  | _ => none

end Table

namespace Operand

def value (o : Operand) (row : StoredRow) : Value :=
  match o with
  | column index => row.values[index]?.getD .null
  | rowid => .int (Int64.ofInt row.rowid)
  | text content => .text content

end Operand

end TypedSql.Database
