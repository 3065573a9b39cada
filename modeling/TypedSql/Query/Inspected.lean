import TypedSql.Query.Select

/-! The inner structure of fragments and queries as one line of text, for messages
that show what was put together. -/
namespace TypedSql

open Text (inspected bracketed)

/-- A record: its name, and each field with its content. -/
def inspectedRecord (name : String) (fields : List (String × String)) : String :=
  name ++ " \x7b " ++ ", ".intercalate (fields.map fun (field, content) => field ++ ": " ++ content)
    ++ " \x7d"

def inspectedOption : Option String → String
  | none => "None"
  | some content => "Some(" ++ content ++ ")"

def Value.inspected : Value → String
  | null => "Null"
  | int n => "Int(" ++ Text.intText n.toInt ++ ")"
  | real x => "Float(" ++ Number.FloatLayout.inspected.text x ++ ")"
  | text s => "Text(" ++ Text.inspected s ++ ")"
  | blob bytes => "Blob(" ++ bracketed (bytes.map fun byte => Text.natText byte.toNat) ++ ")"

def Fragment.inspected (f : Fragment) : String :=
  inspectedRecord "Expression" [("template", Text.inspected f.template),
    ("bindings", bracketed (f.bindings.map Value.inspected))]

def JoinKind.inspected : JoinKind → String
  | cross => "Cross"
  | inner => "Inner"
  | leftOuter => "LeftOuter"

namespace Query

/-- Expressions are shown as what they compile to. -/
def inspectedExprs (items : List Expr) : String :=
  bracketed (items.map fun item => item.fragment.inspected)

def inspectedTable (table : TableRef) : String :=
  inspectedRecord "FromClause" [("name", Text.inspected table.name),
    ("alias", inspectedOption (table.label.map Text.inspected)),
    ("schema", inspectedOption (table.schema.map Text.inspected))]

def inspectedGroup (group : Group) : String :=
  inspectedRecord "GroupClause" [("by", inspectedExprs group.terms),
    ("having", inspectedOption (group.condition.map fun c => c.fragment.inspected))]

def inspectedLimit (limit : Limit) : String :=
  inspectedRecord "LimitClause" [("length", Text.natText limit.length),
    ("offset", inspectedOption (limit.offset.map Text.natText))]

mutual

/-- Every clause of the query, present or not. -/
def inspected : Query → String
  | ⟨table, distinct, columns, joins, filter, group, order, limit, unions⟩ =>
    inspectedRecord "Table" [("clauses", inspectedRecord "ClauseSet" [
      ("select", inspectedRecord "SelectClause" [("distinct", if distinct then "true" else "false"),
        ("columns", inspectedExprs columns)]),
      ("from", inspectedTable table),
      ("joins", bracketed (inspectedJoins joins)),
      ("filters", inspectedOption (filter.map fun f => f.fragment.inspected)),
      ("group", inspectedOption (group.map inspectedGroup)),
      ("order", inspectedExprs order),
      ("limit", inspectedOption (limit.map inspectedLimit)),
      ("union", bracketed (inspectedUnions unions))])]

def inspectedJoins : List (Join Query) → List String
  | [] => []
  | ⟨kind, target, condition⟩ :: rest =>
    inspectedRecord "JoinClause" [("kind", kind.inspected), ("query", inspected target),
      ("condition", condition.fragment.inspected)] :: inspectedJoins rest

def inspectedUnions : List Query → List String
  | [] => []
  | q :: rest => inspected q :: inspectedUnions rest

end

end Query

def ScalarQuery.inspected (s : ScalarQuery t) : String :=
  "ScalarQuery(" ++ s.query.inspected ++ ")"

end TypedSql
