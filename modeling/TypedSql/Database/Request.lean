import TypedSql.Database.Basic
import TypedSql.Database.Token
import TypedSql.Statement
import TypedSql.Value.Cell

/-! The requests that the database understands, read from the tokens of an SQL text.
Every value that a request stores or compares is a placeholder or NULL; placeholders are
numbered from left to right. -/
namespace TypedSql.Database

/-- A value that a request gives. -/
inductive Scalar where
  | parameter (index : Nat)
  | null
  deriving DecidableEq, Repr

inductive Comparison where
  | eq | notEq | lt | ltEq | gt | gtEq
  deriving DecidableEq, Repr

/-- The name of a column as it is written, perhaps behind the name of its table. -/
structure Name where
  text : String
  quoted : Bool := false
  table : Option String := none
  deriving DecidableEq, Repr

/-- What a value is tested for. -/
inductive Check where
  | compare (op : Comparison) (value : Scalar)
  | isNull (expected : Bool)
  deriving DecidableEq, Repr

/-- A test of one column. -/
structure Condition where
  column : Name
  check : Check
  deriving DecidableEq, Repr

/-- What a selection from a table gives for its rows. -/
inductive Targets where
  /-- All columns, perhaps behind the name of their table. -/
  | everything (table : Option String)
  /-- Columns, each with the text it was read from. -/
  | columns (items : List (String × Name))
  /-- One value for all rows; without a column, the rows themselves are counted. -/
  | aggregate (function : Aggregate) (column : Option Name) (label : String)
  deriving DecidableEq, Repr

/-- A selection from one table. -/
structure Selection where
  targets : Targets
  table : String
  label : Option String := none
  condition : Option Condition := none
  order : List (Name × Direction) := []
  limit : Option Limit := none
  deriving DecidableEq, Repr

inductive Request where
  | createTable (ifMissing : Bool) (name : String) (columns : List ColumnDef)
  | dropTable (ifPresent : Bool) (name : String)
  /-- Without columns, the values are those of all columns; without values too, a row of
  defaults. What is returned for the new row is constant, each under its name. -/
  | insert (onConflict : Option OnConflict) (table : String) (columns : List Name)
      (values : List Scalar) (returned : List (String × Cell))
  | select (selection : Selection)
  /-- One row of given values, each under its own text. -/
  | values (items : List (String × Scalar))
  | exists (label : String) (selection : Selection)
  | update (table : String) (changes : List (Name × Scalar)) (condition : Option Condition)
  | delete (table : String) (condition : Option Condition)
  | foreignKeys
  | busyTimeout
  deriving DecidableEq

/-- Whether a request is for a change of rows. -/
def Request.isChange : Request → Bool
  | insert .. | update .. | delete .. => true
  | _ => false

/-- What is left to read, and the number of placeholders read. -/
structure ReaderState where
  input : List Lexeme
  parameters : Nat := 0

abbrev Reader := StateT ReaderState Option

namespace Reader

/-- Takes the next token if it is as wanted. -/
def token (wanted : Token → Option α) : Reader α := do
  let s ← get
  match s.input with
  | [] => failure
  | lexeme :: rest =>
    match wanted lexeme.token with
    | none => failure
    | some a => set { s with input := rest }; return a

def keyword (word : String) : Reader Unit :=
  token fun
    | .word text => if text.toUpper = word then some () else none
    | _ => none

def keywords : List String → Reader Unit
  | [] => return ()
  | word :: rest => do keyword word; keywords rest

def symbol (mark : String) : Reader Unit :=
  token fun
    | .symbol text => if text = mark then some () else none
    | _ => none

/-- Whether the reader succeeds; what it does not read stays. -/
def present (reader : Reader Unit) : Reader Bool :=
  (do reader; return true) <|> return false

/-- The words that cannot be bare names. -/
def reserved : List String :=
  ["ADD", "ALL", "ALTER", "AND", "AS", "AUTOINCREMENT", "BETWEEN", "CASE", "CHECK", "COLLATE",
    "COMMIT", "CONSTRAINT", "CREATE", "DEFAULT", "DEFERRABLE", "DELETE", "DISTINCT", "DROP",
    "ELSE", "ESCAPE", "EXCEPT", "EXISTS", "FOREIGN", "FROM", "GROUP", "HAVING", "IN", "INDEX",
    "INSERT", "INTERSECT", "INTO", "IS", "ISNULL", "JOIN", "LIMIT", "NOT", "NOTHING", "NOTNULL",
    "NULL", "ON", "OR", "ORDER", "PRIMARY", "REFERENCES", "RETURNING", "SELECT", "SET", "TABLE",
    "THEN", "TO", "TRANSACTION", "UNION", "UNIQUE", "UPDATE", "USING", "VALUES", "WHEN", "WHERE"]

def name : Reader Name :=
  token fun
    | .word text => if text.toUpper ∈ reserved then none else some { text }
    | .name text => some { text, quoted := true }
    | _ => none

/-- The name of a table. All tables are in the schema `main`. -/
def tableName : Reader String := do
  let first ← name
  if ← present (symbol ".") then
    let second ← name
    if sameName first.text "main" then return second.text
    failure
  return first.text

/-- The name of a column, perhaps behind the name of its table. -/
def columnName : Reader Name := do
  let first ← name
  if ← present (symbol ".") then
    return { (← name) with table := some first.text }
  return first

def number : Reader Nat :=
  token fun
    | .number n => some n
    | _ => none

def scalar : Reader Scalar := do
  if ← present (keyword "NULL") then return .null
  token fun
    | .placeholder => some ()
    | _ => none
  let s ← get
  set { s with parameters := s.parameters + 1 }
  return .parameter s.parameters

/-- Reads items with commas between them, `fuel` of them at most. -/
def listUpTo (item : Reader α) : (fuel : Nat) → Reader (List α)
  | 0 => failure
  | fuel + 1 => do
    let first ← item
    if ← present (symbol ",") then return first :: (← listUpTo item fuel)
    return [first]

/-- Reads one or more items with commas between them. -/
def list (item : Reader α) : Reader (List α) := do
  listUpTo item ((← get).input.length + 1)

def parenthesised (inner : Reader α) : Reader α := do
  symbol "("
  let a ← inner
  symbol ")"
  return a

/-- Reads something with the text that it was read from. -/
def labelled (inner : Reader α) : Reader (String × α) := do
  let before := (← get).input
  let a ← inner
  let after := (← get).input
  return (sourceText (before.take (before.length - after.length)), a)

/-- Reads something behind a keyword, if the keyword is there. -/
def optional (word : String) (inner : Reader α) : Reader (Option α) := do
  if ← present (keyword word) then return some (← inner)
  return none

/-- Reads the words of a declared type, `fuel` of them at most. -/
def typeWords : (fuel : Nat) → Reader (List String)
  | 0 => return []
  | fuel + 1 =>
    (do let word ← token fun
          | .word text => if text.toUpper ∈ reserved then none else some text
          | _ => none
        return word :: (← typeWords fuel)) <|>
    return []

/-- A declared type may be absent, and may have a size or two. -/
def typeName : Reader TypeName := do
  let words ← typeWords (← get).input.length
  if words.isEmpty then return {}
  let words := " ".intercalate words
  (do let sizes ← parenthesised (list number)
      if sizes.length ≤ 2 then return { words, sizes }
      failure) <|>
  return { words }

/-- Reads the constraints of a column, `fuel` of them at most. -/
def constraints : (fuel : Nat) → ColumnDef → Reader ColumnDef
  | 0, column => return column
  | fuel + 1, column => do
    if ← present (keywords ["PRIMARY", "KEY"]) then
      if column.primaryKey then failure
      constraints fuel { column with primaryKey := true }
    else if ← present (keywords ["NOT", "NULL"]) then
      constraints fuel { column with notNull := true }
    else if ← present (keyword "UNIQUE") then
      constraints fuel { column with unique := true }
    else if ← present (keyword "NULL") then constraints fuel column
    else return column

def columnDef : Reader ColumnDef := do
  let column : ColumnDef := { name := (← name).text, type := ← typeName }
  constraints (← get).input.length column

def comparison : Reader Comparison :=
  token fun
    | .symbol "=" => some .eq
    | .symbol "!=" => some .notEq
    | .symbol "<>" => some .notEq
    | .symbol "<" => some .lt
    | .symbol "<=" => some .ltEq
    | .symbol ">" => some .gt
    | .symbol ">=" => some .gtEq
    | _ => none

def check : Reader Check := do
  if ← present (keyword "IS") then
    let negated ← present (keyword "NOT")
    keyword "NULL"
    return .isNull (!negated)
  return .compare (← comparison) (← scalar)

def test : Reader Condition :=
  return { column := ← columnName, check := ← check }

/-- A test, in parentheses or not. -/
def condition : Reader Condition :=
  parenthesised test <|> test

def orderTerm : Reader (Name × Direction) := do
  let column ← columnName
  if ← present (keyword "DESC") then return (column, .descending)
  let _ ← present (keyword "ASC")
  return (column, .ascending)

def aggregateName : Reader Aggregate :=
  token fun
    | .word text =>
      [Aggregate.count, .max, .min, .average, .sum, .total].find? fun f =>
        f.name = String.ofList (text.toList.map Char.toLower)
    | _ => none

/-- An aggregate of a column, or the number of rows. -/
def aggregate : Reader (Aggregate × Option Name) := do
  let function ← aggregateName
  parenthesised do
    if ← present (symbol "*") then
      if function = .count then return (function, none)
      failure
    return (function, some (← columnName))

/-- All columns, perhaps behind the name of their table. -/
def everything : Reader Targets := do
  if ← present (symbol "*") then return .everything none
  let table ← name
  symbol "."
  symbol "*"
  return .everything (some table.text)

def targets : Reader Targets :=
  everything <|>
  (do let (label, function, column) ← labelled aggregate
      return .aggregate function column label) <|>
  return .columns (← list (labelled columnName))

/-- A selection behind the word SELECT. -/
def selection : Reader Selection := do
  let targets ← targets
  keyword "FROM"
  let table ← tableName
  let label ← optional "AS" name
  let condition ← optional "WHERE" condition
  let order ← if ← present (keywords ["ORDER", "BY"]) then list orderTerm else pure []
  let limit ← optional "LIMIT" do
    let length ← number
    return { length, offset := ← optional "OFFSET" number }
  return { targets, table, label := label.map Name.text, condition, order, limit }

def existsTest : Reader Request := do
  let (label, inner) ← labelled do
    keyword "EXISTS"
    parenthesised do
      keyword "SELECT"
      selection
  return .exists label inner

def onConflict : Reader (Option OnConflict) := do
  if ← present (keyword "OR") then
    let resolution ← token fun
      | .word text =>
        [OnConflict.replace, .rollback, .abort, .fail, .ignore].find? fun r =>
          r.keyword = text.toUpper
      | _ => none
    return some resolution
  return none

def blob : Reader (List UInt8) :=
  token fun
    | .blob bytes => some bytes
    | _ => none

/-- Bytes taken for text, which need not be that of any characters. -/
def textOfBytes : Reader Cell := do
  keyword "CAST"
  parenthesised do
    let bytes ← blob
    keyword "AS"
    keyword "TEXT"
    return .text bytes

/-- What is returned goes by a name of its own or by its text. -/
def returnedItem : Reader (String × Cell) := do
  let (text, cell) ← labelled textOfBytes
  let label ← optional "AS" name
  return ((label.map Name.text).getD text, cell)

def insertion : Reader Request := do
  let onConflict ← onConflict
  keyword "INTO"
  let table ← tableName
  if ← present (keywords ["DEFAULT", "VALUES"]) then return .insert onConflict table [] [] []
  let columns ← parenthesised (list name) <|> pure []
  keyword "VALUES"
  let values ← parenthesised (list scalar)
  let returned ← optional "RETURNING" (list returnedItem)
  return .insert onConflict table columns values (returned.getD [])

def assignment : Reader (Name × Scalar) := do
  let column ← name
  symbol "="
  return (column, ← scalar)

def createTable : Reader Request := do
  keyword "TABLE"
  let ifMissing ← present (keywords ["IF", "NOT", "EXISTS"])
  let table ← tableName
  return .createTable ifMissing table (← parenthesised (list columnDef))

def dropTable : Reader Request := do
  keyword "TABLE"
  let ifPresent ← present (keywords ["IF", "EXISTS"])
  return .dropTable ifPresent (← tableName)

def update : Reader Request := do
  let table ← tableName
  keyword "SET"
  let changes ← list assignment
  return .update table changes (← optional "WHERE" condition)

def deletion : Reader Request := do
  keyword "FROM"
  let table ← tableName
  return .delete table (← optional "WHERE" condition)

def setting : Reader Request :=
  token fun
    | .word text =>
      if text.toUpper = "FOREIGN_KEYS" then some .foreignKeys
      else if text.toUpper = "BUSY_TIMEOUT" then some .busyTimeout
      else none
    | _ => none

def request : Reader Request :=
  (do keyword "CREATE"; createTable) <|>
  (do keyword "DROP"; dropTable) <|>
  (do keyword "INSERT"; insertion) <|>
  (do keyword "SELECT"; existsTest) <|>
  (do keyword "SELECT"; return .select (← selection)) <|>
  (do keyword "SELECT"; return .values (← list (labelled scalar))) <|>
  (do keyword "UPDATE"; update) <|>
  (do keyword "DELETE"; deletion) <|>
  (do keyword "PRAGMA"; setting)

/-- A request that leaves nothing to read. -/
def whole : Reader Request := do
  let request ← request
  if (← get).input.isEmpty then return request
  failure

end Reader

/-- The tokens between the semicolons. -/
def segments (lexemes : List Lexeme) : List (List Lexeme) :=
  (lexemes.splitOnP fun lexeme => lexeme.token = .symbol ";").filter fun segment => !segment.isEmpty

/-- The requests of several texts one after the other, up to the first text that makes
none. Their placeholders are numbered together. -/
def Request.ofSegments (parameters : Nat) : List (List Lexeme) → List (Option Request)
  | [] => []
  | input :: rest =>
    match Reader.whole.run { input, parameters } with
    | some (request, after) => some request :: ofSegments after.parameters rest
    | none => [none]

/-- The requests that a text makes, with semicolons between them. -/
def Request.listOfText (text : String) : List (Option Request) :=
  match lexemes text with
  | some lexemes => Request.ofSegments 0 (segments lexemes)
  | none => [none]

end TypedSql.Database
