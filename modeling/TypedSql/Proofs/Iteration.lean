import TypedSql.Connection.Buffered
import TypedSql.Connection.Run
import TypedSql.Proofs.SessionRun

namespace TypedSql

namespace Session

variable {σ α β : Type} {x : Session σ α} {f : α → Session σ β} {s : σ}

theorem runFrom_lift_bind (x : StateM σ α) (f : α → Session σ β) (s : σ) :
    runFrom (liftM x >>= f) s = (f (x.run s).1).runFrom (x.run s).2 := rfl

/-- The computation leaves the state as it is, whether it fails or not. -/
def Keeps (x : Session σ α) (s : σ) : Prop :=
  (x.runFrom s).2 = s

theorem keeps_pure (a : α) (s : σ) : Keeps (pure a) s := rfl

theorem keeps_throw (e : Error) (s : σ) : Keeps (throw e : Session σ α) s := rfl

theorem Keeps.bind (first : x.Keeps s) (next : ∀ a, (f a).Keeps s) : Keeps (x >>= f) s := by
  unfold Keeps at first
  rcases result : x.runFrom s with ⟨e | a, behind⟩
  · rw [result] at first
    rw [Keeps, runFrom_bind_of_error result]
    exact first
  · rw [result] at first
    obtain rfl : behind = s := first
    rw [Keeps, runFrom_bind_of_ok result]
    exact next a

theorem Keeps.runFrom_eq (keeps : x.Keeps s) : x.runFrom s = ((x.runFrom s).1, s) :=
  Prod.ext rfl keeps

end Session

namespace Connection

variable {σ ρ : Type}

/-- Preparing a statement and asking for its columns changes nothing. -/
structure Describes (c : Connection σ ρ) (s : σ) : Prop where
  prepare : ∀ statement, (c.prepare statement).Keeps s
  columnNames : ∀ p, (c.columnNames p).Keeps s

theorem Describes.prepare_eq {c : Connection σ ρ} {s : σ} (describes : c.Describes s)
    {statement : Fragment} {p : ρ}
    (prepared : ((c.prepare statement).runFrom s).1 = .ok p) :
    (c.prepare statement).runFrom s = (.ok p, s) := by
  rw [(describes.prepare statement).runFrom_eq, prepared]

/-- The steps of a statement give these rows one by one, and then none. -/
inductive HandsOut (c : Connection σ ρ) : ρ → σ → List (List Value) → Prop where
  | done {p p' : ρ} {s s' : σ} (step : (c.step p).run s = ((.ok none, p'), s')) : HandsOut c p s []
  | row {p p' : ρ} {s s' : σ} {values : List Value} {rest : List (List Value)}
      (step : (c.step p).run s = ((.ok (some values), p'), s')) (behind : HandsOut c p' s' rest) :
      HandsOut c p s (values :: rest)

theorem HandsOut.unique {c : Connection σ ρ} {p : ρ} {s : σ} {first second : List (List Value)}
    (one : c.HandsOut p s first) (other : c.HandsOut p s second) : first = second := by
  induction one generalizing second with
  | done step =>
    cases other with
    | done again => rfl
    | row again behind =>
      rw [step] at again
      cases again
  | row step behind ih =>
    cases other with
    | done again =>
      rw [step] at again
      cases again
    | row again others =>
      rw [step] at again
      cases again
      rw [ih others]

end Connection

namespace Rows

variable {σ ρ : Type} {c : Connection σ ρ} {rows : Rows ρ} {s s' : σ} {p' : ρ}
  {handed : List (List Value)}

theorem next_of_row {values : List Value}
    (step : (c.step rows.statement).run s = ((.ok (some values), p'), s')) :
    (rows.next c).run s =
      ((some (.ok ⟨rows.columns, values⟩), { rows with statement := p' }), s') := by
  simp only [next, StateT.run_bind, step]
  rfl

theorem next_of_done (step : (c.step rows.statement).run s = ((.ok none, p'), s')) :
    (rows.next c).run s = ((none, { rows with statement := p' }), s') := by
  simp only [next, StateT.run_bind, step]
  rfl

theorem next_of_handsOut (hands : c.HandsOut rows.statement s handed) :
    ((rows.next c).run s).1.1 = handed.head?.map fun values => .ok ⟨rows.columns, values⟩ := by
  cases hands with
  | done step => rw [next_of_done step]; rfl
  | row step behind => rw [next_of_row step]; rfl

theorem upTo_of_handsOut (hands : c.HandsOut rows.statement s handed) (n : Nat) :
    ((rows.upTo c n).run s).1 = (handed.take n).map fun values => .ok ⟨rows.columns, values⟩ := by
  induction n generalizing rows s handed with
  | zero => rfl
  | succ n ih =>
    cases hands with
    | done step =>
      simp only [upTo, StateT.run_bind, next_of_done step]
      rfl
    | @row _ p' _ s' values rest step behind =>
      let others : Rows ρ := { rows with statement := p' }
      have rests : ((others.upTo c n).run s').1 =
          (rest.take n).map fun values => .ok ⟨rows.columns, values⟩ :=
        ih behind
      simp only [upTo, StateT.run_bind, next_of_row step, List.take_succ_cons,
        List.map_cons, ← rests]
      rfl

end Rows

namespace Query

variable {σ ρ : Type} {c : Connection σ ρ} {s : σ}

theorem keeps_reportedColumns (describes : c.Describes s) (source : Query) :
    (source.reportedColumns c).Keeps s :=
  (describes.prepare _).bind describes.columnNames

theorem keeps_sourceNames (describes : c.Describes s) (qualify : Bool) (source : Query) :
    (source.sourceNames c qualify).Keeps s := by
  apply (keeps_reportedColumns describes source).bind
  intro columns
  exact Session.keeps_pure _ s

theorem keeps_allSourceNames (describes : c.Describes s) (qualify : Bool) (sources : List Query) :
    (allSourceNames c qualify sources).Keeps s := by
  induction sources with
  | nil => exact Session.keeps_pure _ s
  | cons source rest ih =>
    apply (keeps_sourceNames describes qualify source).bind
    intro names
    apply ih.bind
    intro others
    exact Session.keeps_pure _ s

theorem keeps_selectedNames (describes : c.Describes s) (q : Query) (selected : Selected) :
    (q.selectedNames c selected).Keeps s := by
  cases selected with
  | expression template => exact Session.keeps_pure _ s
  | everything => exact keeps_allSourceNames describes _ _
  | everythingOf reference =>
    rw [selectedNames]
    split
    · exact Session.keeps_throw _ s
    · exact keeps_sourceNames describes true _

theorem keeps_resultNames (describes : c.Describes s) (q : Query) (columns : List Expr) :
    (q.resultNames c columns).Keeps s := by
  induction columns with
  | nil => exact Session.keeps_pure _ s
  | cons column rest ih =>
    apply (keeps_selectedNames describes q _).bind
    intro names
    apply ih.bind
    intro others
    exact Session.keeps_pure _ s

theorem keeps_resolveColumns (describes : c.Describes s) (q : Query) :
    (q.resolveColumns c).Keeps s := by
  apply (keeps_resultNames describes q q.columns).bind
  intro names
  exact Session.keeps_pure _ s

section Limit
variable (c) (q : Query) (limit : Option Limit)

theorem selectedNames_limit (selected : Selected) :
    selectedNames c { q with limit } selected = q.selectedNames c selected := by
  cases selected with
  | expression template => rfl
  | everything => rfl
  | everythingOf reference =>
    rw [selectedNames, selectedNames, sources, sources, List.find?_cons, List.find?_cons]
    by_cases own : q.table.reference.template = reference
    · simp only [selectAll, select, own, decide_true]
      rfl
    · simp only [selectAll, select, own, decide_false]

/-- How many rows are wanted does not matter for the names of the columns. -/
theorem resolveColumns_limit : resolveColumns c { q with limit } = q.resolveColumns c := by
  have names (columns : List Expr) : resultNames c { q with limit } columns =
      q.resultNames c columns := by
    induction columns with
    | nil => rfl
    | cons column rest ih => rw [resultNames, resultNames, selectedNames_limit, ih]
  rw [resolveColumns, resolveColumns, names]

end Limit

end Query

namespace Engine

variable {σ : Type} (e : Engine σ)

/-- A connection that runs statements when they are stepped only describes them before. -/
theorem describes (s : σ) : e.connection.Describes s where
  prepare _ := rfl
  columnNames _ := rfl

theorem handsOut_of_rows {p : Prepared} {rows : List (List Value)}
    (kept : p.rows = some rows) (s : σ) :
    e.connection.HandsOut p s rows := by
  induction rows generalizing p with
  | nil =>
    have step : (e.connection.step p).run s = ((.ok none, { p with rows := some [] }), s) := by
      simp [step, kept, Prepared.handOut]
    exact .done step
  | cons values rest ih =>
    have step : (e.connection.step p).run s =
        ((.ok (some values), { p with rows := some rest }), s) := by
      simp [step, kept, Prepared.handOut]
    exact .row step (ih rfl)

theorem fetch_of_run {s last : σ} {statement : Fragment} {rows : List (List Value)}
    {outcome : Outcome} (ran : e.run s statement =
      (.ok (rows.map fun row => row.map Value.cell, outcome), last)) :
    e.fetch s statement = (.ok rows, last) := by
  rw [fetch, ran]
  exact congrArg (·, last) (Cell.rowsOf_cells rows)

theorem handsOut_of_fetch {p : Prepared} (fresh : p.rows = none) {s last : σ}
    {rows : List (List Value)} (fetched : e.fetch s p.statement = (.ok rows, last)) :
    e.connection.HandsOut p s rows := by
  cases rows with
  | nil =>
    have step : (e.connection.step p).run s = ((.ok none, { p with rows := some [] }), last) := by
      simp [step, fresh, fetched, Prepared.handOut]
    exact .done step
  | cons values rest =>
    have step : (e.connection.step p).run s =
        ((.ok (some values), { p with rows := some rest }), last) := by
      simp [step, fresh, fetched, Prepared.handOut]
    exact .row step (e.handsOut_of_rows rfl last)

end Engine

end TypedSql
