import Mathlib.Data.List.Nodup
import Mathlib.Data.List.Pairwise
import TypedSql.Database.Column
import TypedSql.Proofs.Iteration
import TypedSql.Proofs.Positions
import TypedSql.Proofs.SourceNames
import TypedSql.Proofs.StoredValues
import TypedSql.Proofs.Wildcards

/-! A row that is inserted and read again. The database is known by the statements it gets: it
pairs the names of an insertion with the values, keeps the values as they are, and hands out
whole rows for a selection of the table. Each column is then read at its own position, and
gives what it was set to. -/
namespace TypedSql

open Clauses (Insertion wholeTable?)
open Database (sameName)

/-- A number that is none. -/
def Value.isNaN : Value → Bool
  | real x => x.isNaN
  | _ => false

namespace Clauses.Insertion

/-- There is a value for every name, every name is one of these columns, no column is named
twice, and no value is a number that is none. -/
structure Fits (i : Insertion) (columns : List String) : Prop where
  paired : i.columns.length = i.values.length
  known : ∀ name ∈ i.columns, ∃ column ∈ columns, sameName name column
  once : i.columns.Pairwise fun a b => ¬ sameName a b
  numbers : ∀ value ∈ i.values, value.isNaN = false

/-- What the new row holds in a column. -/
def valueOf (i : Insertion) (column : String) : Value :=
  (((i.columns.zip i.values).find? fun (name, _) => sameName name column).map Prod.snd).getD .null

/-- The new row of a table with these columns. -/
def row (i : Insertion) (columns : List String) : List Value :=
  columns.map i.valueOf

end Clauses.Insertion

namespace Connection

variable {σ ρ : Type}

/-- The table has these columns and rows: its selection names the columns and hands out the rows. -/
def Holds (c : Connection σ ρ) (s : σ) (table columns : List String) (rows : List (List Value)) :
    Prop :=
  ∀ statement, statement.Balanced → wholeTable? statement.lexemes = some table →
    ∃ p, (c.prepare statement).runFrom s = (.ok p, s) ∧
    (c.columnNames p).runFrom s = (.ok columns, s) ∧
      c.HandsOut p s rows

/-- An insertion that fits the table adds its row behind the rows that are there. -/
def Stores (c : Connection σ ρ) (table columns : List String) : Prop :=
  ∀ s rows, c.Holds s table columns rows →
    ∀ (statement : Fragment) (i : Insertion), statement.Balanced →
      Insertion.read statement.lexemes = some i → i.table = table → i.Fits columns →
      ∃ outcome last, (c.execute statement).runFrom s = (.ok outcome, last) ∧
        c.Holds last table columns (rows ++ [i.row columns])

end Connection

section Names
variable {columns : List String}

theorem sameName_refl (name : String) : sameName name name = true := by
  simp [sameName]

/-- Among columns that differ in more than case, the case of a name does not matter. -/
theorem eq_of_sameName (distinct : columns.Pairwise fun a b => ¬ sameName a b) {a b : String}
    (first : a ∈ columns) (second : b ∈ columns) (same : sameName a b) : a = b := by
  have symmetric : Std.Symm fun a b : String => ¬ sameName a b := by
    constructor
    intro a b differ same
    exact differ (by simpa [sameName, eq_comm] using same)
  by_contra different
  exact distinct.forall first second different same

theorem nodup_of_differ (distinct : columns.Pairwise fun a b => ¬ sameName a b) :
    columns.Nodup := by
  refine distinct.imp fun differ same => differ ?_
  rw [same]
  exact sameName_refl _

end Names

namespace Assignment

variable {columns : List String} {assignments : List Assignment}

/-- The row that assignments make. -/
def insertion (table : List String) (assignments : List Assignment) : Insertion :=
  ⟨table, assignments.map column, assignments.map encoded⟩

theorem valueOf_insertion (table : List String) (assignments : List Assignment) (name : String) :
    (insertion table assignments).valueOf name =
      ((assignments.find? fun a => sameName a.column name).map encoded).getD .null := by
  simp only [insertion, Insertion.valueOf, List.zip_map', List.find?_map, Option.map_map]
  rfl

variable (distinct : columns.Pairwise fun a b => ¬ sameName a b)
  (known : ∀ a ∈ assignments, a.column ∈ columns)
include distinct known

theorem valueOf_of_mem (once : (assignments.map column).Nodup) (table : List String)
    {a : Assignment}
    (member : a ∈ assignments) : (insertion table assignments).valueOf a.column = a.encoded := by
  have first : assignments.find? (fun b => sameName b.column a.column) = some a := by
    cases found : assignments.find? fun b => sameName b.column a.column with
    | none => exact absurd (sameName_refl _) (List.find?_eq_none.1 found a member)
    | some b =>
      have inside : b ∈ assignments := List.mem_of_find?_eq_some found
      have alike : sameName b.column a.column = true := by simpa using List.find?_some found
      have same : b.column = a.column :=
        eq_of_sameName distinct (known b inside) (known a member) alike
      rw [List.inj_on_of_nodup_map once inside member same]
  rw [valueOf_insertion, first]
  rfl

theorem valueOf_of_unset (table : List String) {name : String} (inTable : name ∈ columns)
    (unset : ∀ a ∈ assignments, a.column ≠ name) :
    (insertion table assignments).valueOf name = .null := by
  have nothing : assignments.find? (fun a => sameName a.column name) = none := by
    refine List.find?_eq_none.2 fun a member same => unset a member ?_
    exact eq_of_sameName distinct (known a member) inTable same
  rw [valueOf_insertion, nothing]
  rfl

theorem fits_insertion (once : (assignments.map column).Nodup) (table : List String)
    (numbers : ∀ a ∈ assignments, a.encoded.isNaN = false) :
    (insertion table assignments).Fits columns where
  paired := by simp [insertion]
  known := List.forall_mem_map.2 fun a member => ⟨a.column, known a member, sameName_refl _⟩
  once := by
    refine once.imp_of_mem fun first second different same => different ?_
    obtain ⟨a, inside, rfl⟩ := List.mem_map.1 first
    obtain ⟨b, alsoInside, rfl⟩ := List.mem_map.1 second
    exact eq_of_sameName distinct (known a inside) (known b alsoInside) same
  numbers := List.forall_mem_map.2 numbers

end Assignment

theorem Row.get_of_mem {columns : List String} (distinct : columns.Nodup) (i : Insertion)
    {name : String} (member : name ∈ columns) (t : SqlType) :
    (Row.mk (.ofNames (columns.map Text.quote)) (i.row columns)).get (Term.column t name) =
      t.ofOption (Text.quote name) (t.base.decode (i.valueOf name)) := by
  obtain ⟨position, found⟩ := List.mem_iff_getElem?.1 member
  have quoted : (columns.map Text.quote).Nodup := distinct.map Text.quote_injective
  have registered :
      (ColumnMap.ofNames (columns.map Text.quote)).get? (Term.column t name).template =
      some position :=
    ColumnMap.get?_ofNames_of_nodup quoted (by rw [List.getElem?_map, found]; rfl)
  have value : (i.row columns)[position]? = some (i.valueOf name) := by
    rw [Insertion.row, List.getElem?_map, found]
    rfl
  rw [get, Row.getOptional_of_get? registered, value]
  rfl

theorem Query.runFrom_rows_ofTable {c : Connection σ ρ} {s : σ} {name : String}
    {schema : Option String} {columns : List String} {handed : List (List Value)}
    (holds : c.Holds s (schema.toList ++ [name]) columns handed) :
    ∃ p, ((ofTable name schema).rows c).runFrom s =
      (.ok ⟨p, .ofNames (columns.map Text.quote)⟩, s) ∧
      c.HandsOut p s handed := by
  obtain ⟨balanced, whole⟩ := Clauses.wholeTable?_ofTable name schema
  obtain ⟨p, prepared, described, hands⟩ := holds _ balanced whole
  have reported : ((ofTable name schema).reportedColumns c).runFrom s = (.ok columns, s) :=
    (Session.runFrom_bind_of_ok prepared).trans described
  have reports : ((ofTable name schema).sources.mapM (reportedColumns c)).runFrom s =
      (.ok [columns], s) :=
    Session.runFrom_mapM_cons_eq_ok.2 ⟨columns, s, [], reported, rfl, rfl⟩
  have named : (allSourceNames c false (ofTable name schema).sources).runFrom s =
      (.ok (columns.map Text.quote), s) :=
    allSourceNames_ok_iff.2 ⟨[columns], reports, List.append_nil _⟩
  have resolved : ((ofTable name schema).resolveColumns c).runFrom s =
      (.ok (.ofNames (columns.map Text.quote)), s) := by
    have star : Selected.ofTemplate Expr.star.template = .everything := Selected.ofTemplate_star
    have names : ((ofTable name schema).resultNames c [.star]).runFrom s =
        (.ok (columns.map Text.quote), s) := by
      simp only [resultNames, star, selectedNames]
      exact Session.runFrom_bind_eq_ok.2 ⟨_, s, named, by simp⟩
    exact Session.runFrom_bind_of_ok names
  refine ⟨p, ?_, hands⟩
  rw [rows, Session.runFrom_bind_of_ok prepared]
  exact Session.runFrom_bind_of_ok resolved

section Inserted
variable {columns : List String} {assignments : List Assignment}
  (distinct : columns.Pairwise fun a b => ¬ sameName a b)
  (known : ∀ a ∈ assignments, a.column ∈ columns)
  (once : (assignments.map Assignment.column).Nodup)
include distinct known

include once in
/-- A column that was set is read as what is left of its value in the stored form. -/
theorem Row.get_of_assigned (table : List String) {a : Assignment} (member : a ∈ assignments) :
    (Row.mk (.ofNames (columns.map Text.quote))
      ((Assignment.insertion table assignments).row columns)).get (Term.column a.type a.column) =
      .ok (a.type.stored a.value.host) := by
  rw [Row.get_of_mem (nodup_of_differ distinct) _ (known a member),
    Assignment.valueOf_of_mem distinct known once table member]
  exact a.type.ofOption_decode_encode _ _

theorem Row.get_of_unassigned (table : List String) {column : String} (inTable : column ∈ columns)
    (unset : ∀ a ∈ assignments, a.column ≠ column) (b : BaseType) :
    let row := Row.mk (.ofNames (columns.map Text.quote))
      ((Assignment.insertion table assignments).row columns)
    row.get (Term.column (.nullable b) column) = .ok none ∧
      row.get (Term.column (.required b) column) =
        .error (.unexpectedNull (Text.quote column)) := by
  intro row
  have missing : (Assignment.insertion table assignments).valueOf column = .null :=
    Assignment.valueOf_of_unset distinct known table inTable unset
  rw [Row.get_of_mem (nodup_of_differ distinct) _ inTable,
    Row.get_of_mem (nodup_of_differ distinct) _ inTable, missing]
  constructor
  · exact congrArg Except.ok b.decode_null
  · exact congrArg (SqlType.ofOption (Text.quote column) (.required b)) b.decode_null

include once in
/-- The row that assignments make is the first of a table that was empty. -/
theorem Connection.Stores.first_row {c : Connection σ ρ} {s : σ} (name : String)
    (schema : Option String) (stores : c.Stores (schema.toList ++ [name]) columns)
    (empty : c.Holds s (schema.toList ++ [name]) columns []) (nonempty : assignments ≠ [])
    (numbers : ∀ a ∈ assignments, a.encoded.isNaN = false) :
    let table := Query.ofTable name schema
    ∃ result last rows,
      ((Command.insert table none (assignments.map Assignment.setter)).run c).runFrom s =
        (.ok result, last) ∧
      (table.rows c).runFrom last = (.ok rows, last) ∧
      ((rows.next c).run last).1.1 = some (.ok ⟨.ofNames (columns.map Text.quote),
        (Assignment.insertion (schema.toList ++ [name]) assignments).row columns⟩) := by
  intro table
  let path := schema.toList ++ [name]
  let i := Assignment.insertion path assignments
  let command := Command.insert table none (assignments.map Assignment.setter)
  obtain ⟨balanced, read⟩ : command.fragment.Balanced ∧
      Insertion.read command.fragment.lexemes = some i :=
    Insertion.read_insert rfl rfl (fun _ _ => rfl) (fun a _ => a.value.constant?_operand) nonempty
  have fits : i.Fits columns := Assignment.fits_insertion distinct known once path numbers
  obtain ⟨outcome, last, executed, holds⟩ := stores s [] empty _ i balanced read rfl fits
  obtain ⟨p, selected, hands⟩ := Query.runFrom_rows_ofTable holds
  let rows : Rows ρ := ⟨p, .ofNames (columns.map Text.quote)⟩
  have handsOut : c.HandsOut rows.statement last [i.row columns] := hands
  exact ⟨_, last, rows, Session.runFrom_bind_of_ok executed, selected,
    Rows.next_of_handsOut handsOut⟩

end Inserted

namespace Engine

variable (table columns : List String)

/-- One table behind an engine that reads the statements it gets. -/
def ofTable : Engine (List (List Value)) where
  describe _ statement :=
    if wholeTable? statement.lexemes = some table then .ok columns
    else .error (.database "no such table")
  run rows statement :=
    match Insertion.read statement.lexemes with
    | some i =>
      if i.table = table then
        (.ok ([], { lastRowid := rows.length + 1, changes := 1 }), rows ++ [i.row columns])
      else (.error (.database "no such table"), rows)
    | none =>
      if wholeTable? statement.lexemes = some table then
        (.ok (rows.map fun row => row.map Value.cell, {}), rows)
      else (.error (.database "no such table"), rows)

theorem holds_ofTable (rows : List (List Value)) :
    (ofTable table columns).connection.Holds rows table columns rows := by
  intro statement _ whole
  let p : Prepared := { statement, columns }
  have prepared : ((ofTable table columns).connection.prepare statement).runFrom rows =
      (.ok p, rows) := by
    simp only [runFrom_prepare, prepare, ofTable, whole, ↓reduceIte, p]
  have ran : (ofTable table columns).run rows statement =
      (.ok (rows.map fun row => row.map Value.cell, {}), rows) := by
    simp only [ofTable, Clauses.read_of_wholeTable whole, whole, ↓reduceIte]
  have fetched := (ofTable table columns).fetch_of_run ran
  exact ⟨p, prepared, rfl, (ofTable table columns).handsOut_of_fetch rfl fetched⟩

theorem stores_ofTable : (ofTable table columns).connection.Stores table columns := by
  intro s rows holds statement i _ read same _
  have ran : (ofTable table columns).run s statement =
      (.ok ([], { lastRowid := s.length + 1, changes := 1 }), s ++ [i.row columns]) := by
    simp only [ofTable, read, same, ↓reduceIte]
  have executed : ((ofTable table columns).connection.execute statement).runFrom s =
      (.ok { lastRowid := s.length + 1, changes := 1 }, s ++ [i.row columns]) := by
    rw [runFrom_execute, execute, ran]
  refine ⟨_, _, executed, ?_⟩
  intro selection balanced whole
  obtain ⟨p, prepared, -, hands⟩ := holds selection balanced whole
  obtain ⟨again, preparedAgain, -, handsState⟩ :=
    holds_ofTable table columns s selection balanced whole
  rw [prepared] at preparedAgain
  cases preparedAgain
  rw [hands.unique handsState]
  exact holds_ofTable table columns _ selection balanced whole

end Engine

end TypedSql
