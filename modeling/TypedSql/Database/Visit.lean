import TypedSql.Database.Operand

/-! How a selection visits the rows of its table: in the order of their identifiers, or
along a distinct column in the order of its values. Of the ways that there are the one
with the least estimated cost is taken. Estimates do not look at the rows: they are those
of a table of about a million, and all quantities are ten times a binary logarithm. -/
namespace TypedSql.Database

namespace Estimate

/-- Ten times the binary logarithm of a number. -/
def ofNat (n : Nat) : Nat :=
  if n < 2 then 0
  else 10 * n.log2 + [0, 2, 3, 5, 6, 7, 8, 9][8 * n / Nat.pow 2 n.log2 - 8]?.getD 0

/-- The estimate of a sum: the larger summand, and up to 10 more the closer they are. -/
def sum (a b : Nat) : Nat :=
  let gap := max a b - min a b
  max a b + ([2, 4, 6, 9, 12, 15, 19, 25, 32, 50].filter fun bound => gap < bound).length

/-- The rows of a table. -/
def allRows : Nat := 200

/-- The steps of a search among so many rows. -/
def search (rows : Nat) : Nat :=
  if rows ≤ 10 then 0 else ofNat rows - 33

/-- The cost of ordering rows by `terms` terms of which `met` are met already. A result
has `columns` columns and at most `length` rows. -/
def sorting (rows columns terms met : Nat) (length : Option Nat) : Nat :=
  let whole := rows + ofNat ((columns + 59) / 30) + ofNat ((terms - met) * 100 / terms) - 66
  match length with
  | none => whole + search rows
  | some length =>
    whole + (if met = 0 then 10 else 16) + search (min rows (ofNat length))

end Estimate

/-- The order in which rows are visited. -/
inductive Path where
  | byRowid
  | byColumn (index : Nat)
  deriving DecidableEq, Repr

/-- A way to visit the rows of a table. A narrowed visit meets only rows that pass the
test of the selection. -/
structure Visit where
  path : Path
  narrowed : Bool := false
  backwards : Bool := false
  cost : Nat
  rows : Nat
  deriving DecidableEq, Repr

/-- A test of an operand. -/
abbrev Test := Operand × Check

/-- What the choice of a visit depends on. -/
structure VisitGoal where
  /-- The operands whose values are needed. -/
  used : List Operand := []
  test : Option Test := none
  order : List (Operand × Direction) := []
  columns : Nat := 1
  limit : Option Limit := none

namespace VisitGoal

/-- The rows that are left of all when the test is applied to each. -/
def restRows (g : VisitGoal) : Nat :=
  match g.test with
  | none | some (.text _, _) => Estimate.allRows
  | some (_, .compare .eq _) => Estimate.allRows - 20
  | some _ => Estimate.allRows - 1

/-- A bound on the number of rows that is small enough to count on. -/
def length? (g : VisitGoal) : Option Nat :=
  (g.limit.map Limit.length).filter fun length => 1 ≤ length && length < Nat.pow 2 31

/-- Whether the test leaves one value of the operand only. -/
def fixes (g : VisitGoal) (o : Operand) : Bool :=
  match g.test with
  | some (tested, .compare .eq _) | some (tested, .isNull true) => tested = o
  | _ => false

end VisitGoal

/-- Whether a check is for a range of values. -/
def Check.isRange : Check → Bool
  | .compare op _ => op ∉ [.eq, .notEq]
  | .isNull _ => false

namespace Table

/-- The estimated width of a row, or of an entry on one column and the identifier. -/
def width (t : Table) : Nat :=
  t.columns.foldl (fun sum column => sum + column.type.width) (if t.keyIndex?.isNone then 1 else 0)

def entryWidth (column : ColumnDef) : Nat :=
  column.type.width + 1

/-- The distinct columns beside the identifier, the last one first. -/
def distinctColumns (t : Table) : List (Nat × ColumnDef) :=
  ((t.columns.zipIdx.filter fun (column, _) => column.isDistinct && !column.isKey).map
    fun (column, index) => (index, column)).reverse

/-- Whether the test picks single rows, or those without a value in a distinct column. -/
def isPointed (t : Table) : Test → Bool
  | (.rowid, .compare .eq _) => true
  | (.column index, .compare .eq _) | (.column index, .isNull true) =>
    t.columns[index]?.any ColumnDef.isDistinct
  | _ => false

/-- The visits by identifier. -/
def visitsByRowid (g : VisitGoal) : List Visit :=
  let whole : Visit := { path := .byRowid, cost := Estimate.allRows + 16, rows := g.restRows }
  match g.test with
  | some (.rowid, check) =>
    if check.isRange then
      [whole, { path := .byRowid, narrowed := true, cost := Estimate.allRows - 4,
                rows := Estimate.allRows - 20 }]
    else [whole]
  | _ => [whole]

/-- The visits along a distinct column. Where more than the column and the identifier is
needed, every row is looked up as well. -/
def visitsByColumn (t : Table) (g : VisitGoal) (index : Nat) (column : ColumnDef) : List Visit :=
  let here (o : Operand) : Bool := o = .column index || o = .rowid
  let covered := g.used.all here
  let helps := g.order.any fun (o, _) => here o
  let entry := Estimate.ofNat (4 * entryWidth column)
  let row := Estimate.ofNat (4 * t.width)
  let visit (narrowed : Bool) (rows lookups : Nat) (left : Nat) : Visit :=
    let steps := rows + 1 + 15 * entry / row
    { path := .byColumn index, narrowed
      cost := if covered then steps else Estimate.sum steps (lookups + 16)
      rows := left }
  let lookups := Estimate.allRows - (if g.test.any fun (o, _) => here o then 1 else 0)
  let whole := visit false Estimate.allRows lookups g.restRows
  let range (rows : Nat) := visit true rows rows rows
  (if helps || (covered && entry < row) then [whole] else []) ++
    match g.test with
    | some (.column tested, check) =>
      if tested ≠ index then []
      else if check.isRange then [range (Estimate.allRows - 20)]
      else if check = .isNull false && !column.notNull then [range (Estimate.allRows - 1)]
      else []
    | _ => []

/-- What a path runs through, and whether it tells rows apart. -/
def keys (t : Table) : Path → List (Operand × Bool)
  | .byRowid => [(.rowid, true)]
  | .byColumn index =>
    [(.column index, t.columns[index]?.any ColumnDef.notNull), (.rowid, true)]

end Table

/-- The number of leading terms that a path meets, and the direction that it has to be
run in. Behind a key that tells rows apart all terms are met. -/
def metTerms (fixed : Operand → Bool) (keys : List (Operand × Bool))
    (direction : Option Direction) : List (Operand × Direction) → Nat × Option Direction
  | [] => (0, direction)
  | (o, wanted) :: rest =>
    if fixed o then
      let (count, direction) := metTerms fixed keys direction rest
      (count + 1, direction)
    else
      match keys with
      | [] => (0, direction)
      | (key, apart) :: keys =>
        if o ≠ key || direction.any (· ≠ wanted) then (0, direction)
        else if apart then (rest.length + 1, some wanted)
        else
          let (count, direction) := metTerms fixed keys (some wanted) rest
          (count + 1, direction)

/-- The first of the least by the given numbers, of which the earlier ones count more. -/
def leastBy (measure : α → List Nat) : List α → Option α
  | [] => none
  | first :: rest =>
    some (rest.foldl (fun best a => if measure a < measure best then a else best) first)

/-- A visit with the cost of ordering the rows behind it: the whole cost, the rows, and
the cost before ordering. -/
def Visit.ordered (t : Table) (g : VisitGoal) (rows : Nat) (v : Visit) : Visit × List Nat :=
  let (met, direction) := metTerms g.fixes (t.keys v.path) none g.order
  let visit := { v with backwards := direction = some .descending }
  if met = g.order.length then (visit, [v.cost, v.rows, v.cost - 2])
  else
    let sorting := Estimate.sorting rows g.columns g.order.length met g.length?
    (visit, [Estimate.sum v.cost sorting + 3, v.rows, v.cost])

/-- The visit with the least cost. -/
def Table.visit (t : Table) (g : VisitGoal) : Visit :=
  let byRowid : Visit := { path := .byRowid, cost := 0, rows := 0 }
  if g.test.any t.isPointed then { byRowid with narrowed := true }
  else
    let visits := visitsByRowid g ++
      t.distinctColumns.flatMap fun (index, column) => t.visitsByColumn g index column
    let unordered := (leastBy (fun v => [v.cost, v.rows]) visits).getD byRowid
    if g.order.isEmpty then unordered
    else
      ((leastBy Prod.snd (visits.map (Visit.ordered t g (unordered.rows + 1)))).map
        Prod.fst).getD byRowid

end TypedSql.Database
