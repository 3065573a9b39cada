import Mathlib.Data.List.Basic
import TypedSql.Database.Connection
import TypedSql.Proofs.SessionRun

/-! Statements of one buffered connection under any schedule of calls. The engine is watched
while it works, so that each call shows which statements it ran and on which state. A
statement runs at a step of its own only: at each step until the rows of a run could be read,
and never again. What its steps hand out from there on is the result of that run, whatever the
calls in between did to the database. -/
namespace TypedSql

/-- A statement that an engine ran, the state it ran on and what came of it. -/
structure EngineRun (σ : Type) where
  before : σ
  statement : Fragment
  result : Except Failure (List (List Cell) × Outcome)

/-- The same engine, keeping a list of its runs. -/
def Engine.recorded (e : Engine σ) : Engine (List (EngineRun σ) × σ) where
  describe s statement := e.describe s.2 statement
  run s statement :=
    let (result, after) := e.run s.2 statement
    (result, (s.1 ++ [⟨s.2, statement, result⟩], after))

namespace Buffered

/-- One call on a connection. An open statement goes by its place among those prepared. -/
inductive Action where
  | execute (statement : Fragment)
  | prepare (statement : Fragment)
  | step (index : Nat)
  deriving DecidableEq

inductive Answer where
  | executed (result : Except Error Outcome)
  | prepared (result : Except Error (List String))
  | stepped (row : Except Error (Option (List Value)))
  /-- No statement has been prepared for this place. -/
  | notOpen
  deriving DecidableEq

/-- A database and the statements that are open on it. -/
structure Desk (σ : Type) where
  database : σ
  statements : List Prepared := []

namespace Desk

/-- What a call answers, and the database and the statements behind it. -/
def perform (e : Engine σ) (desk : Desk σ) : Action → Answer × Desk σ
  | .execute statement =>
    let (result, database) := (e.connection.execute statement).runFrom desk.database
    (.executed result, { desk with database })
  | .prepare statement =>
    match (e.connection.prepare statement).runFrom desk.database with
    | (.ok p, database) => (.prepared (.ok p.columns), ⟨database, desk.statements ++ [p]⟩)
    | (.error cause, database) => (.prepared (.error cause), { desk with database })
  | .step index =>
    match desk.statements[index]? with
    | none => (.notOpen, desk)
    | some p =>
      let ((row, p), database) := e.connection.step p desk.database
      (.stepped row, ⟨database, desk.statements.set index p⟩)

end Desk

/-- A call with its answer, the runs of the engine that it took, and the database around it. -/
structure Event (σ : Type) where
  action : Action
  answer : Answer
  runs : List (EngineRun σ)
  before : σ
  after : σ

/-- The engine failed on the statement, and the call says so. -/
def Event.Fails (e : Engine σ) (statement : Fragment) (event : Event σ) : Prop :=
  ∃ failure, e.run event.before statement = (.error failure, event.after) ∧
    event.runs = [⟨event.before, statement, .error failure⟩] ∧
    event.answer = .stepped (.error (.connection failure))

/-- The engine ran the statement, its rows could not be read, and the call fails for it. -/
def Event.Misreads (e : Engine σ) (statement : Fragment) (event : Event σ) : Prop :=
  ∃ cells outcome failure, e.run event.before statement = (.ok (cells, outcome), event.after) ∧
    Cell.rowsOf cells = .error failure ∧
    event.runs = [⟨event.before, statement, .ok (cells, outcome)⟩] ∧
    event.answer = .stepped (.error (.connection failure))

/-- The engine ran the statement with these rows as its result. -/
def Event.Yields (e : Engine σ) (statement : Fragment) (rows : List (List Value))
    (event : Event σ) : Prop :=
  ∃ cells outcome, e.run event.before statement = (.ok (cells, outcome), event.after) ∧
    Cell.rowsOf cells = .ok rows ∧
    event.runs = [⟨event.before, statement, .ok (cells, outcome)⟩]

/-- Nothing was run and the database is as it was. -/
def Event.IsQuiet (event : Event σ) : Prop :=
  event.runs = [] ∧ event.after = event.before

/-- The steps of a statement, in order: some on which the engine failed or gave rows that could
not be read, then, if there are more, one that ran the statement and after it quiet ones. From
this run on each step gives the next of its rows, and none when they are used up. -/
def HandOutOneRun (e : Engine σ) (statement : Fragment) (steps : List (Event σ)) : Prop :=
  ∃ failed served, steps = failed ++ served ∧
    (∀ event ∈ failed, event.Fails e statement ∨ event.Misreads e statement) ∧
    (served = [] ∨ ∃ first others rows, served = first :: others ∧
      first.Yields e statement rows ∧ (∀ event ∈ others, event.IsQuiet) ∧
      ∀ (k : Nat) (event : Event σ), served[k]? = some event →
        event.answer = .stepped (.ok rows[k]?))

namespace Desk

/-- A call watched from before it to behind it. -/
def watch (e : Engine σ) (desk : Desk σ) (action : Action) : Event σ × Desk σ :=
  let (answer, behind) := perform e.recorded ⟨([], desk.database), desk.statements⟩ action
  let (runs, database) := behind.database
  (⟨action, answer, runs, desk.database, database⟩, ⟨database, behind.statements⟩)

/-- The events of a schedule, one call after the other, and what is there behind them. -/
def history (e : Engine σ) (desk : Desk σ) : List Action → List (Event σ) × Desk σ
  | [] => ([], desk)
  | action :: rest =>
    let (event, next) := desk.watch e action
    let (events, last) := history e next rest
    (event :: events, last)

variable {e : Engine σ} {desk : Desk σ} {index : Nat} {p : Prepared}

/-- Watching changes neither the answer nor what is behind the call. -/
theorem perform_eq_watch (e : Engine σ) (desk : Desk σ) (action : Action) :
    desk.perform e action = ((desk.watch e action).1.answer, (desk.watch e action).2) := by
  cases action with
  | execute statement =>
    rcases ran : e.run desk.database statement with ⟨failure | ⟨rows, outcome⟩, after⟩ <;>
      simp [watch, perform, Engine.execute, Engine.recorded, ran]
  | prepare statement =>
    rcases described : e.describe desk.database statement with failure | columns <;>
      simp [watch, perform, Engine.prepare, Engine.recorded, described]
  | step index =>
    rcases opened : desk.statements[index]? with _ | p
    · simp [watch, perform, opened]
    rcases kept : p.rows with _ | rows
    · rcases ran : e.run desk.database p.statement with ⟨failure | ⟨cells, outcome⟩, after⟩
      · simp [watch, perform, opened, Engine.connection, Engine.step, Engine.fetch,
          Engine.recorded, kept, ran, Except.bind]
      · rcases read : Cell.rowsOf cells with failure | rows <;>
          simp [watch, perform, opened, Engine.connection, Engine.step, Engine.fetch,
            Engine.recorded, kept, ran, Except.bind, read]
    · simp [watch, perform, opened, Engine.connection, Engine.step, kept]

section Step
variable (opened : desk.statements[index]? = some p)
include opened

theorem watch_step_of_rows {rows : List (List Value)} (kept : p.rows = some rows) :
    desk.watch e (.step index) =
      (⟨.step index, .stepped (.ok rows.head?), [], desk.database, desk.database⟩,
        { desk with
          statements := desk.statements.set index { p with rows := some rows.tail } }) := by
  cases rows <;>
    simp [watch, perform, opened, Engine.connection, Engine.step, kept, Prepared.handOut]

theorem watch_step_of_failure (fresh : p.rows = none) {failure : Failure} {after : σ}
    (ran : e.run desk.database p.statement = (.error failure, after)) :
    desk.watch e (.step index) =
      (⟨.step index, .stepped (.error (.connection failure)),
          [⟨desk.database, p.statement, .error failure⟩], desk.database, after⟩,
        ⟨after, desk.statements.set index p⟩) := by
  simp [watch, perform, opened, Engine.connection, Engine.step, Engine.fetch, Engine.recorded,
    fresh, ran, Except.bind]

section Ran
variable (fresh : p.rows = none) {cells : List (List Cell)} {outcome : Outcome} {after : σ}
  (ran : e.run desk.database p.statement = (.ok (cells, outcome), after))
include fresh ran

theorem watch_step_of_unread {failure : Failure} (read : Cell.rowsOf cells = .error failure) :
    desk.watch e (.step index) =
      (⟨.step index, .stepped (.error (.connection failure)),
          [⟨desk.database, p.statement, .ok (cells, outcome)⟩], desk.database, after⟩,
        ⟨after, desk.statements.set index p⟩) := by
  simp [watch, perform, opened, Engine.connection, Engine.step, Engine.fetch, Engine.recorded,
    fresh, ran, Except.bind, read]

theorem watch_step_of_success {rows : List (List Value)} (read : Cell.rowsOf cells = .ok rows) :
    desk.watch e (.step index) =
      (⟨.step index, .stepped (.ok rows.head?),
          [⟨desk.database, p.statement, .ok (cells, outcome)⟩], desk.database, after⟩,
        ⟨after, desk.statements.set index { p with rows := some rows.tail }⟩) := by
  cases rows <;>
    simp [watch, perform, opened, Engine.connection, Engine.step, Engine.fetch, Engine.recorded,
      fresh, ran, Except.bind, read, Prepared.handOut]

end Ran

/-- Other calls leave the statement as it is. -/
theorem statement_watch {action : Action} (other : action ≠ .step index) :
    (desk.watch e action).2.statements[index]? = some p := by
  have inside : index < desk.statements.length := (List.getElem?_eq_some_iff.1 opened).1
  have watched :=
    congrArg (fun result => result.2.statements[index]?) (perform_eq_watch e desk action)
  rw [← watched]
  cases action with
  | execute statement => exact opened
  | prepare statement =>
    rcases described : e.describe desk.database statement with failure | columns
    · simpa [perform, Engine.prepare, described] using opened
    · simpa [perform, Engine.prepare, described, List.getElem?_append_left inside] using opened
  | step another =>
    have different : another ≠ index := fun same => other (congrArg Action.step same)
    rcases found : desk.statements[another]? with _ | q
    · simpa [perform, found] using opened
    · rcases stepped : e.connection.step q desk.database with ⟨⟨row, rest⟩, database⟩
      simpa [perform, found, stepped, List.getElem?_set_ne different] using opened

end Step

theorem watch_prepare (e : Engine σ) (desk : Desk σ) (statement : Fragment) :
    desk.watch e (.prepare statement) =
      match e.describe desk.database statement with
      | .ok columns =>
        (⟨.prepare statement, .prepared (.ok columns), [], desk.database, desk.database⟩,
          { desk with statements := desk.statements ++ [{ statement, columns }] })
      | .error failure =>
        (⟨.prepare statement, .prepared (.error (.connection failure)), [], desk.database,
          desk.database⟩, desk) := by
  rcases described : e.describe desk.database statement with failure | columns <;>
    simp [watch, perform, Engine.prepare, Engine.recorded, described]

/-- The events of a schedule that are steps of one statement. -/
def stepsOf (index : Nat) (e : Engine σ) (desk : Desk σ) (schedule : List Action) :
    List (Event σ) :=
  (desk.history e schedule).1.filter fun event => event.action = .step index

@[simp] theorem action_watch (e : Engine σ) (desk : Desk σ) (action : Action) :
    (desk.watch e action).1.action = action := rfl

theorem stepsOf_cons_self (e : Engine σ) (desk : Desk σ) (rest : List Action) :
    desk.stepsOf index e (.step index :: rest) =
      (desk.watch e (.step index)).1 :: (desk.watch e (.step index)).2.stepsOf index e rest := by
  simp [stepsOf, history]

theorem stepsOf_cons_other (e : Engine σ) (desk : Desk σ) {action : Action}
    (other : action ≠ .step index) (rest : List Action) :
    desk.stepsOf index e (action :: rest) = (desk.watch e action).2.stepsOf index e rest := by
  simp [stepsOf, history, other]

section Schedule
variable (opened : desk.statements[index]? = some p)
include opened

variable (e) in
/-- Once it has run, a statement runs no more and hands out what it kept, whatever is called
in between. -/
theorem stepsOf_of_rows {rows : List (List Value)} (kept : p.rows = some rows)
    (schedule : List Action) :
    ∀ (k : Nat) (event : Event σ), (desk.stepsOf index e schedule)[k]? = some event →
      event.IsQuiet ∧ event.answer = .stepped (.ok rows[k]?) := by
  induction schedule generalizing desk p rows with
  | nil => simp [stepsOf, history]
  | cons action rest ih =>
    intro k event found
    by_cases own : action = .step index
    · subst own
      rw [stepsOf_cons_self, watch_step_of_rows opened kept] at found
      cases k with
      | zero =>
        obtain rfl := Option.some.inj found
        exact ⟨⟨rfl, rfl⟩, by rw [List.head?_eq_getElem?]⟩
      | succ k =>
        have inside : index < desk.statements.length := (List.getElem?_eq_some_iff.1 opened).1
        have later := ih (List.getElem?_set_self inside) rfl k event found
        rwa [List.getElem?_tail] at later
    · rw [stepsOf_cons_other e desk own] at found
      exact ih (statement_watch opened own) kept k event found

/-- A statement that has not run yet runs at each of its steps until its rows could be read. -/
theorem handOutOneRun_stepsOf (fresh : p.rows = none) (schedule : List Action) :
    HandOutOneRun e p.statement (desk.stepsOf index e schedule) := by
  induction schedule generalizing desk with
  | nil => exact ⟨[], [], rfl, by simp, .inl rfl⟩
  | cons action rest ih =>
    by_cases own : action = .step index
    · subst own
      have inside : index < desk.statements.length := (List.getElem?_eq_some_iff.1 opened).1
      have again (after : σ) : HandOutOneRun e p.statement
          (stepsOf index e ⟨after, desk.statements.set index p⟩ rest) :=
        ih (List.getElem?_set_self inside)
      rw [stepsOf_cons_self]
      rcases ran : e.run desk.database p.statement with ⟨failure | ⟨cells, outcome⟩, after⟩
      · obtain ⟨failed, served, events, fail, serve⟩ := again after
        rw [watch_step_of_failure opened fresh ran, events]
        refine ⟨_ :: failed, served, rfl, List.forall_mem_cons.2 ⟨.inl ?_, fail⟩, serve⟩
        exact ⟨failure, ran, rfl, rfl⟩
      · rcases read : Cell.rowsOf cells with failure | rows
        · obtain ⟨failed, served, events, fail, serve⟩ := again after
          rw [watch_step_of_unread opened fresh ran read, events]
          refine ⟨_ :: failed, served, rfl, List.forall_mem_cons.2 ⟨.inr ?_, fail⟩, serve⟩
          exact ⟨cells, outcome, failure, ran, read, rfl, rfl⟩
        · let behind : Desk σ :=
            ⟨after, desk.statements.set index { p with rows := some rows.tail }⟩
          have kept : behind.statements[index]? = some { p with rows := some rows.tail } :=
            List.getElem?_set_self inside
          have quiet := stepsOf_of_rows e kept rfl rest
          rw [watch_step_of_success opened fresh ran read]
          refine ⟨[], _, rfl, by simp, .inr ⟨_, _, rows, rfl, ⟨cells, outcome, ran, read, rfl⟩,
            fun event member => ?_, fun k event found => ?_⟩⟩
          · obtain ⟨k, found⟩ := List.getElem?_of_mem member
            exact (quiet k event found).1
          · cases k with
            | zero =>
              obtain rfl := Option.some.inj found
              rw [List.head?_eq_getElem?]
            | succ k =>
              have later := (quiet k event found).2
              rwa [List.getElem?_tail] at later
    · rw [stepsOf_cons_other e desk own]
      exact ih (statement_watch opened own)

end Schedule

end Desk

end Buffered

open Buffered

/-- In any schedule of calls on one connection, over any engine, preparing a statement runs
nothing and changes nothing. Of the steps of the statement, whatever the calls between
them, the first ones fail, with the engine or because the rows of a run could not be read; one
that succeeds runs the statement, which is then run no more; and from it on they hand out the
rows of that run one by one, in order, and none behind the last. -/
theorem steps_hand_out_one_run (e : Engine σ) (s : σ) (earlier later : List Action)
    (statement : Fragment) :
    let desk := (Desk.history e ⟨s, []⟩ earlier).2
    let (opening, next) := desk.watch e (.prepare statement)
    opening.IsQuiet ∧ ∀ columns, opening.answer = .prepared (.ok columns) →
      HandOutOneRun e statement (next.stepsOf desk.statements.length e later) := by
  intro desk
  rw [Desk.watch_prepare]
  cases described : e.describe desk.database statement with
  | error failure => exact ⟨⟨rfl, rfl⟩, fun columns opened => nomatch opened⟩
  | ok columns =>
    refine ⟨⟨rfl, rfl⟩, fun _ _ => ?_⟩
    let fresh : Prepared := { statement, columns }
    let next : Desk σ := { desk with statements := desk.statements ++ [fresh] }
    have opened : next.statements[desk.statements.length]? = some fresh := by simp [next]
    exact Desk.handOutOneRun_stepsOf opened rfl later

/-- An insertion into a table of distinct numbers: its first step fails on a number that is
there, the second one inserts it after a deletion, and another writes in between. -/
theorem steps_hand_out_one_run_insertion :
    let number : Database.ColumnDef := { name := "a", unique := true }
    let db : Database := { tables := [⟨"t", [number], [⟨1, [.int 7]⟩]⟩] }
    let insertion : Fragment :=
      ⟨"INSERT INTO t (a) VALUES (?) RETURNING CAST(X'6f6B' AS TEXT) AS done", [.int 7]⟩
    let schedule : List Action := [.step 0, .execute ⟨"DELETE FROM t", []⟩, .step 0,
      .execute ⟨"INSERT INTO t (a) VALUES (?)", [.int 8]⟩, .step 0]
    let (opening, next) := (Desk.mk db []).watch Database.engine (.prepare insertion)
    let steps := next.stepsOf 0 Database.engine schedule
    opening.answer = .prepared (.ok ["done"]) ∧
      HandOutOneRun Database.engine insertion steps ∧
      steps.map Event.answer =
        [.stepped (.error (.connection (.database "UNIQUE constraint failed: t.a"))),
          .stepped (.ok (some [.text "ok"])), .stepped (.ok none)] := by
  intro number db insertion schedule
  have opened : ((Desk.mk db []).watch Database.engine (.prepare insertion)).1.answer =
      .prepared (.ok ["done"]) := by decide +kernel
  obtain ⟨-, serves⟩ := steps_hand_out_one_run Database.engine db [] schedule insertion
  exact ⟨opened, serves ["done"] opened, by decide +kernel⟩

/-- An insertion that returns bytes which are no text: both its steps fail, and both insert. -/
theorem unread_rows_run_again :
    let db : Database := { tables := [⟨"t", [{ name := "a" }], []⟩] }
    let insertion : Fragment :=
      ⟨"INSERT INTO t (a) VALUES (?) RETURNING CAST(X'FF' AS TEXT) AS x", [.int 1]⟩
    let (events, last) := (Desk.mk db []).history Database.engine
      [.prepare insertion, .step 0, .step 0]
    events.map Event.answer = [.prepared (.ok ["x"]),
        .stepped (.error (.connection (.database "invalid utf-8 sequence"))),
        .stepped (.error (.connection (.database "invalid utf-8 sequence")))] ∧
      events.map (fun event => event.runs.map fun run => run.result.isOk) =
        [[], [true], [true]] ∧
      last.database.tables.map (fun table => table.rows.map Database.StoredRow.values) =
        [[[.int 1], [.int 1]]] := by
  decide +kernel

end TypedSql
