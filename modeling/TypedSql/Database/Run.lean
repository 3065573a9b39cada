import TypedSql.Connection.Basic
import TypedSql.Database.Summation
import TypedSql.Database.Visit

/-! What the requests do: the columns that a request will give, and its run, which maps
a database to rows and a new database or refuses. A refused change leaves the rows as
they are and counts as a change of none. -/
namespace TypedSql.Database

/-- A value of a request; a placeholder without binding is NULL. -/
def Scalar.value (bindings : List Value) : Scalar → Value
  | parameter index => storable (bindings[index]?.getD .null)
  | null => .null

/-- A comparison with NULL does not hold. -/
def Comparison.holds (op : Comparison) (a b : Value) : Bool :=
  !a.isNull && !b.isNull &&
    match op with
    | eq => a.same b
    | notEq => !a.same b
    | lt => a.before b
    | ltEq => !b.before a
    | gt => b.before a
    | gtEq => !a.before b

/-- Whether a row passes a test. An identifier equals whole numbers only, and a narrowed
visit compares with the value in the form that the column prefers. -/
def Table.passes (t : Table) (bindings : List Value) (narrowed : Bool) (test : Test)
    (row : StoredRow) : Bool :=
  let (operand, check) := test
  let found := operand.value row
  match check with
  | .isNull expected => found.isNull = expected
  | .compare op scalar =>
    let value := scalar.value bindings
    match operand, op with
    | .rowid, .eq => (wholeNumber? value).any fun n => found = .int n
    | _, _ =>
      match t.column? operand with
      | some column => op.holds found (if narrowed then column.fit value else value)
      | none => op.holds found value

/-- Whether a row comes strictly before another by the ordering terms. -/
def rowBefore (terms : List (Operand × Direction)) (a b : StoredRow) : Bool :=
  match terms with
  | [] => false
  | (operand, direction) :: rest =>
    let x := operand.value a
    let y := operand.value b
    if x.before y then direction = .ascending
    else if y.before x then direction = .descending
    else rowBefore rest a b

/-- The rows in order; rows that the terms do not tell apart stay as they are. -/
def orderedRows (terms : List (Operand × Direction)) (rows : List StoredRow) : List StoredRow :=
  rows.mergeSort fun a b => !rowBefore terms b a

/-- The rows that pass a test, all of them without one, in the order of a visit. -/
def Table.visited (t : Table) (bindings : List Value) (test : Option Test) (visit : Visit) :
    List StoredRow :=
  let rows := t.rows.filter fun row =>
    test.all fun test => t.passes bindings visit.narrowed test row
  let rows := match visit.path with
    | .byRowid => rows
    | .byColumn index => orderedRows [(.column index, .ascending)] rows
  if visit.backwards then rows.reverse else rows

/-- The largest number of rows that a limit can name. -/
def maxCount : Nat := Int64.maxValue.toInt.toNat

/-- The part of a result that a limit lets through. A limit of no rows looks neither at
the rows nor at the offset. -/
def limited (limit : Option Limit) (rows : Except Refusal (List α)) : Except Refusal (List α) :=
  match limit with
  | none => rows
  | some { length := 0, .. } => .ok []
  | some limit =>
    let offset := limit.offset.getD 0
    if limit.length ≤ maxCount ∧ offset ≤ maxCount then
      rows.map fun rows => (rows.drop offset).take limit.length
    else .error .mismatch

/-- The greatest value by the given order, the first of equals. -/
def extreme (before : Value → Value → Bool) : List Value → Value
  | [] => .null
  | first :: rest => rest.foldl (fun best value => if before best value then value else best) first

/-- The value of an aggregate over the values of a column. -/
def aggregateValue (function : Aggregate) (values : List Value) : Except Refusal Value :=
  let present := values.filter fun value => !value.isNull
  let sum := Summation.ofValues present
  match function with
  | .count => .ok (.int (Int64.ofNat present.length))
  | .max => .ok (extreme (fun a b => a.before b) present)
  | .min => .ok (extreme (fun a b => b.before a) present)
  | .average =>
    if present.isEmpty then .ok .null
    else .ok (storable (.real (sum.toReal / (Int64.ofNat present.length).toFloat)))
  | .sum =>
    if present.isEmpty then .ok .null
    else if sum.overflowed then .error .mismatch
    else if sum.exact then .ok (.int (Int64.ofInt sum.whole))
    else .ok (storable (.real sum.toReal))
  | .total => .ok (storable (.real sum.toReal))

/-- What a selection gives, in terms of the columns of its table. -/
inductive Projection where
  | rows (items : List (String × Operand))
  | aggregate (function : Aggregate) (operand : Option Operand) (label : String)

namespace Projection

def labels : Projection → List String
  | rows items => items.map Prod.fst
  | aggregate _ _ label => [label]

/-- The operands whose values are looked at. -/
def operands : Projection → List Operand
  | rows items => items.map Prod.snd
  | aggregate _ operand _ => operand.toList

/-- The result rows that are made of the rows of a table. -/
def apply (found : List StoredRow) : Projection → Except Refusal (List (List Value))
  | rows items => .ok (found.map fun row => items.map fun (_, operand) => operand.value row)
  | aggregate _ none _ => .ok [[.int (Int64.ofNat found.length)]]
  | aggregate function (some operand) _ => do
    return [[← aggregateValue function (found.map operand.value)]]

end Projection

namespace Table

/-- All columns under their names. -/
def allColumns (t : Table) : List (String × Operand) :=
  t.columns.zipIdx.map fun (column, index) =>
    (column.name, if t.keyIndex? = some index then .rowid else .column index)

/-- A column goes by the name it was declared with, anything else by its own text. -/
def labelOf (t : Table) (text : String) : Operand → String
  | .column index => (t.columns[index]?.map ColumnDef.name).getD text
  | .rowid => t.keyName
  | .text _ => text

/-- What targets mean for a table that goes by `label`. -/
def projection (t : Table) (label : String) : Targets → Except Refusal Projection
  | .everything qualifier =>
    if qualifier.all (sameName label) then .ok (.rows t.allColumns)
    else .error (.noSuchTable (qualifier.getD label))
  | .columns items => do
    return .rows (← items.mapM fun (text, name) => do
      let operand ← t.operand label name
      return (t.labelOf text operand, operand))
  | .aggregate function column text => do
    return .aggregate function (← column.mapM (t.operand label)) text

/-- What a condition tests. -/
def test (t : Table) (label : String) (c : Condition) : Except Refusal Test := do
  return (← t.operand label c.column, c.check)

/-- The rows that a change is for. -/
def targeted (t : Table) (bindings : List Value) (condition : Option Condition) :
    Except Refusal (List StoredRow) := do
  let test ← condition.mapM (t.test t.name)
  return t.visited bindings test (t.visit { test })

end Table

/-- A selection in terms of the columns of its table. -/
structure Plan where
  table : Table
  projection : Projection
  test : Option Test
  order : List (Operand × Direction)
  limit : Option Limit

namespace Plan

/-- The operands whose values are needed. -/
def operands (p : Plan) : List Operand :=
  (p.projection.operands ++ p.test.toList.map Prod.fst ++ p.order.map Prod.fst).filter fun
    | .column _ => true
    | _ => false

/-- The order that the result needs. One value for all rows needs none. -/
def neededOrder (p : Plan) : List (Operand × Direction) :=
  match p.projection with
  | .rows _ => p.order
  | .aggregate .. => []

def goal (p : Plan) : VisitGoal where
  used := p.operands
  test := p.test
  order := p.neededOrder
  columns := p.projection.labels.length
  limit := p.limit

/-- The rows of the table that the result is made of, in order. -/
def rows (p : Plan) (bindings : List Value) : List StoredRow :=
  orderedRows p.neededOrder (p.table.visited bindings p.test (p.table.visit p.goal))

def run (p : Plan) (bindings : List Value) : Except Refusal (List (List Value)) :=
  limited p.limit (p.projection.apply (p.rows bindings))

/-- Whether there is a row. Of a limit it counts only whether it lets rows through. -/
def hasRows (p : Plan) (bindings : List Value) : Except Refusal Bool := do
  let limit := p.limit.map fun limit => { limit with length := min limit.length 1 }
  return !(← run { p with limit } bindings).isEmpty

end Plan

/-- What a selection means in a database. -/
def Selection.plan (db : Database) (s : Selection) : Except Refusal Plan := do
  let t ← db.table? s.table
  let label := s.label.getD t.name
  return {
    table := t
    projection := ← t.projection label s.targets
    test := ← s.condition.mapM (t.test label)
    order := ← s.order.mapM fun (column, direction) => return (← t.operand label column, direction)
    limit := s.limit }

/-- The values that a request gives to the places of a row. -/
abbrev Assignment := Operand × Value

namespace Table

/-- The values of a new row: the first one given for each column, and NULL elsewhere. -/
def newValues (t : Table) (given : List Assignment) : List Value :=
  t.columns.zipIdx.map fun (column, index) =>
    column.fit ((given.lookup (.column index)).getD .null)

/-- A row with some of its values changed. -/
def changedRow (t : Table) (changes : List Assignment) (row : StoredRow) :
    Except Refusal StoredRow := do
  let values := row.values.zipIdx.zip t.columns |>.map fun ((value, index), column) =>
    match changes.reverse.lookup (.column index) with
    | some changed => column.fit changed
    | none => value
  match changes.reverse.lookup .rowid with
  | none => return { row with values }
  | some value =>
    match wholeNumber? value with
    | some n => return t.storedRow n.toInt values
    | none => throw .mismatch

/-- Changes the given rows one after the other. -/
def changeRows (t : Table) (changes : List Assignment) : List StoredRow → Except Refusal Table
  | [] => .ok t
  | row :: rest => do
    let changed ← t.changedRow changes row
    let others := t.rows.filter fun other => other.rowid ≠ row.rowid
    match t.obstacle? others changed with
    | some refusal => throw refusal
    | none => ({ t with rows := placeRow changed others } : Table).changeRows changes rest

end Table

/-- Puts a row into its table. -/
def addRow (db : Database) (t : Table) (row : StoredRow) : Database :=
  let db := db.putTable { t with rows := Table.placeRow row t.rows }
  { db with lastRowid := row.rowid, lastChanges := 1 }

/-- Inserts a row, or does with it what the conflict resolution says. -/
def insertRow (db : Database) (t : Table) (onConflict : Option OnConflict)
    (given : List Assignment) : Except Refusal Database := do
  let rowid ← t.rowidFor ((given.lookup .rowid).getD .null)
  let row := t.storedRow rowid (t.newValues given)
  match t.obstacle? t.rows row, onConflict with
  | none, _ => return addRow db t row
  | some _, some .ignore => return { db with lastChanges := 0 }
  | some (.duplicate _), some .replace =>
    let kept := t.rows.filter fun other => (t.clash? row other).isNone
    return addRow db { t with rows := kept } row
  | some refusal, _ => throw refusal

namespace Request

/-- The places that an insertion gives values for. -/
def insertedPlaces (t : Table) (columns : List Name) (count : Nat) :
    Except Refusal (List Operand) :=
  if columns.isEmpty && count ≠ 0 then .ok (t.allColumns.map Prod.snd) else columns.mapM t.place

/-- What is wrong with a new table. -/
def newTableFault? (name : String) (columns : List ColumnDef) : Option Refusal :=
  let repeated := columns.zipIdx.find? fun (column, index) =>
    (columns.take index).any fun earlier => sameName earlier.name column.name
  if sameName (String.ofList (name.toList.take 7)) "sqlite_" then some (.reservedName name)
  else
    match repeated with
    | some (column, _) => some (.duplicateColumn column.name)
    | none =>
      if (columns.filter ColumnDef.primaryKey).length > 1 then some (.severalKeys name) else none

/-- The columns that a request gives, once it is known that it can run. -/
def describe (db : Database) : Request → Except Refusal (List String)
  | createTable ifMissing name columns =>
    match newTableFault? name columns, db.table? name with
    | some fault, _ => .error fault
    | none, .ok _ => if ifMissing then .ok [] else .error (.tableExists name)
    | none, .error _ => .ok []
  | dropTable ifPresent name =>
    if ifPresent then .ok [] else (db.table? name).map fun _ => []
  | insert _ table columns given returned => do
    let t ← db.table? table
    let places ← insertedPlaces t columns given.length
    if places.length = given.length then return returned.map Prod.fst else throw .valueCount
  | select selection => return (← selection.plan db).projection.labels
  | values items => .ok (items.map Prod.fst)
  | .exists label selection => do
    let _ ← selection.plan db
    return [label]
  | update table changes condition => do
    let t ← db.table? table
    let _ ← changes.mapM fun (column, _) => t.place column
    let _ ← condition.mapM (t.test t.name)
    return []
  | delete table condition => do
    let t ← db.table? table
    let _ ← condition.mapM (t.test t.name)
    return []
  | foreignKeys => .ok ["foreign_keys"]
  | busyTimeout => .ok ["timeout"]

/-- The cells of rows of values. -/
def cells (rows : List (List Value)) : List (List Cell) :=
  rows.map fun row => row.map Value.cell

/-- What a request does once it is known that it can run. A row that is not inserted returns
nothing. -/
def perform (db : Database) (bindings : List Value) :
    Request → Except Refusal (List (List Cell) × Database)
  | createTable _ name columns =>
    if (db.table? name).isOk then .ok ([], db)
    else .ok ([], { db with tables := db.tables ++ [{ name, columns }] })
  | dropTable _ name =>
    .ok ([], { db with tables := db.tables.filter fun t => !sameName t.name name })
  | insert onConflict table columns given returned => do
    let t ← db.table? table
    let places ← insertedPlaces t columns given.length
    let db ← insertRow db t onConflict (places.zip (given.map (Scalar.value bindings)))
    if returned.isEmpty || db.lastChanges = 0 then return ([], db)
    return ([returned.map Prod.snd], db)
  | select selection => return (cells (← (← selection.plan db).run bindings), db)
  | values items => .ok (cells [items.map fun (_, value) => value.value bindings], db)
  | .exists _ selection => do
    let found ← (← selection.plan db).hasRows bindings
    return ([[.int (if found then 1 else 0)]], db)
  | update table changes condition => do
    let t ← db.table? table
    let changes ← changes.mapM fun (column, value) =>
      return (← t.place column, value.value bindings)
    let rows ← t.targeted bindings condition
    let t ← t.changeRows changes rows
    return ([], { (db.putTable t) with lastChanges := rows.length })
  | delete table condition => do
    let t ← db.table? table
    let rows ← t.targeted bindings condition
    let db := db.putTable { t with rows := t.rows.filter fun row => row ∉ rows }
    return ([], { db with lastChanges := rows.length })
  | foreignKeys => .ok ([[.int (if db.foreignKeys then 1 else 0)]], db)
  | busyTimeout => .ok ([[.int (Int64.ofNat db.busyTimeoutMs)]], db)

/-- Runs one request, if the database can run it. -/
def run (db : Database) (bindings : List Value) (request : Request) :
    Except Refusal (List (List Cell)) × Database :=
  match request.describe db with
  | .error refusal => (.error refusal, db)
  | .ok _ =>
    match request.perform db bindings with
    | .ok (rows, db) => (.ok rows, db)
    | .error refusal =>
      (.error refusal, if request.isChange then { db with lastChanges := 0 } else db)

end Request

/-- What the last insertion and the last change left behind. -/
def outcome (db : Database) : Outcome where
  lastRowid := db.lastRowid
  changes := db.lastChanges

/-- The columns that a text gives: those of its first request that gives any. -/
def describe (db : Database) (text : String) : Except Refusal (List String) := do
  let columns ← (Request.listOfText text).mapM fun
    | none => throw Refusal.malformed
    | some request => request.describe db
  return (columns.find? fun names => !names.isEmpty).getD []

/-- Runs requests one after the other, up to the first that fails: the rows of all, the
number of rows that they changed together, and the database after them. -/
def runAll (db : Database) (bindings : List Value) :
    List (Option Request) → Except Refusal (List (List Cell) × Outcome) × Database
  | [] => (.ok ([], {}), db)
  | none :: _ => (.error .malformed, db)
  | some request :: rest =>
    match request.run db bindings with
    | (.error refusal, db) => (.error refusal, db)
    | (.ok rows, db) =>
      let first := db.outcome
      match runAll db bindings rest with
      | (.error refusal, db) => (.error refusal, db)
      | (.ok (others, last), db) =>
        let lastRowid := if rest.isEmpty then first.lastRowid else last.lastRowid
        (.ok (rows ++ others, { lastRowid, changes := first.changes + last.changes }), db)

/-- Runs a statement: its rows, what it did, and the database after it. -/
def run (db : Database) (statement : Fragment) :
    Except Refusal (List (List Cell) × Outcome) × Database :=
  runAll db statement.bindings (Request.listOfText statement.template)

end TypedSql.Database
