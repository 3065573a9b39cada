import TypedSql.Value.Basic

/-! Compiled SQL: a text with `?` placeholders and the values bound to them, in
order. Fragments are put together by joining texts and appending bindings. -/
namespace TypedSql

/-- A piece of SQL text with its bindings. -/
structure Fragment where
  template : String
  bindings : List Value := []
  deriving DecidableEq

namespace Fragment

/-- A placeholder bound to a value. -/
def bound (value : Value) : Fragment :=
  ⟨"?", [value]⟩

/-- A quoted name. -/
def identifier (name : String) : Fragment :=
  { template := Text.quote name }

/-- The parts with a separator between their texts, bindings in order. -/
def join (separator : String) (parts : List Fragment) : Fragment :=
  ⟨separator.intercalate (parts.map template), parts.flatMap bindings⟩

/-- Parentheses with a text right before them: a call, a negation, or plain
parentheses. -/
def wrap (head : String) (inner : Fragment) : Fragment :=
  ⟨head ++ "(" ++ inner.template ++ ")", inner.bindings⟩

/-- Two operands around an operator, in parentheses if asked for. -/
def operation (op : String) (left right : Fragment) (wrapped : Bool) : Fragment :=
  let bare := join (" " ++ op ++ " ") [left, right]
  if wrapped then wrap "" bare else bare

/-- Clauses of a statement, one space apart. -/
def clauses (parts : List Fragment) : Fragment :=
  join " " parts

/-- The word NULL itself, with nothing bound. -/
def isNullLiteral (f : Fragment) : Bool :=
  f.bindings.isEmpty && f.template == "NULL"

/-- The text with the literal of the next value in place of each `?`, as long as
there are values. -/
def inlinedChars : List Char → List Value → List Char
  | [], _ => []
  | c :: rest, [] => c :: inlinedChars rest []
  | c :: rest, value :: values =>
    if c = '?' then value.literal.toList ++ inlinedChars rest values
    else c :: inlinedChars rest (value :: values)

/-- The SQL text with every binding written out as a literal. -/
def inlined (f : Fragment) : String :=
  String.ofList (inlinedChars f.template.toList f.bindings)

@[simp] theorem template_join (separator : String) (parts : List Fragment) :
    (join separator parts).template = separator.intercalate (parts.map template) := rfl

@[simp] theorem bindings_join (separator : String) (parts : List Fragment) :
    (join separator parts).bindings = parts.flatMap bindings := rfl

@[simp] theorem template_wrap (head : String) (inner : Fragment) :
    (wrap head inner).template = head ++ "(" ++ inner.template ++ ")" := rfl

@[simp] theorem bindings_wrap (head : String) (inner : Fragment) :
    (wrap head inner).bindings = inner.bindings := rfl

/-- The left operand is bound before the right one. -/
@[simp] theorem bindings_operation (op : String) (left right : Fragment) (wrapped : Bool) :
    (operation op left right wrapped).bindings = left.bindings ++ right.bindings := by
  cases wrapped <;> simp [operation]

@[simp] theorem inlinedChars_nil_right (cs : List Char) : inlinedChars cs [] = cs := by
  induction cs with
  | nil => rfl
  | cons c rest ih => simp [inlinedChars, ih]

end Fragment

end TypedSql
