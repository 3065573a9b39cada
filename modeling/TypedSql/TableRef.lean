import TypedSql.Fragment

namespace TypedSql

/-- A table by name, with the schema it lives in and the label it goes by. -/
structure TableRef where
  name : String
  label : Option String := none
  schema : Option String := none
  deriving DecidableEq

namespace TableRef

/-- The name under its schema. -/
def qualifiedName (t : TableRef) : Fragment :=
  match t.schema with
  | none => .identifier t.name
  | some schema => { template := Text.quote schema ++ "." ++ Text.quote t.name }

/-- How the rest of a statement refers to the table: by its label, else by name. -/
def reference (t : TableRef) : Fragment :=
  match t.label with
  | none => t.qualifiedName
  | some label => .identifier label

/-- How the table is introduced: by name, with its label declared. -/
def declaration (t : TableRef) : Fragment :=
  match t.label with
  | none => t.qualifiedName
  | some label => .clauses [t.qualifiedName, { template := "AS" }, .identifier label]

/-- The table without its label. -/
def unlabelled (t : TableRef) : TableRef :=
  { t with label := none }

end TableRef

end TypedSql
