import TypedSql.Proofs.SessionRun

namespace TypedSql.Connection

variable {c : Connection σ ρ} {s mid last : σ} {calls more : List Call} {e : Error}

theorem runFrom_recorded_prepare {statement : Fragment} {answer : Except Error ρ}
    (answered : (c.prepare statement).runFrom s = (answer, last)) (log : List Call) :
    (c.recorded.prepare statement).runFrom (log, s) =
      (answer, (log ++ [.prepare statement], last)) := by
  have noted : (c.recorded.prepare statement).runFrom (log, s) =
      (((c.prepare statement).runFrom s).1,
      (log ++ [.prepare statement], ((c.prepare statement).runFrom s).2)) :=
    rfl
  rw [noted, answered]

theorem runFrom_recorded_columnNames {statement : ρ} {answer : Except Error (List String)}
    (answered : (c.columnNames statement).runFrom s = (answer, last)) (log : List Call) :
    (c.recorded.columnNames statement).runFrom (log, s) =
      (answer, (log ++ [.columnNames], last)) := by
  have noted : (c.recorded.columnNames statement).runFrom (log, s) =
      (((c.columnNames statement).runFrom s).1,
      (log ++ [.columnNames], ((c.columnNames statement).runFrom s).2)) :=
    rfl
  rw [noted, answered]

/-- From a state the computation comes to a result and a last state, and makes just the
given calls on the way. -/
def Runs (c : Connection σ ρ) (x : ∀ τ : Type, Connection τ ρ → Session τ α) (s : σ)
    (calls : List Call) (result : Except Error α) (last : σ) : Prop :=
  (x σ c).runFrom s = (result, last) ∧
    ∀ log, (x (List Call × σ) c.recorded).runFrom (log, s) = (result, (log ++ calls, last))

namespace Runs

theorem pure (a : α) : c.Runs (fun _ _ => Pure.pure a) s [] (.ok a) s := by
  constructor
  · rfl
  · intro log
    rw [List.append_nil]
    rfl

theorem throw (e : Error) : c.Runs (fun _ _ => MonadExcept.throw (α := α) e) s [] (.error e) s := by
  constructor
  · rfl
  · intro log
    rw [List.append_nil]
    rfl

theorem prepare {statement : Fragment} {answer : Except Error ρ}
    (answered : (c.prepare statement).runFrom s = (answer, last)) :
    c.Runs (fun _ c => c.prepare statement) s [.prepare statement] answer last :=
  ⟨answered, runFrom_recorded_prepare answered⟩

theorem columnNames {statement : ρ} {answer : Except Error (List String)}
    (answered : (c.columnNames statement).runFrom s = (answer, last)) :
    c.Runs (fun _ c => c.columnNames statement) s [.columnNames] answer last :=
  ⟨answered, runFrom_recorded_columnNames answered⟩

variable {x : ∀ τ : Type, Connection τ ρ → Session τ α}
  {f : ∀ τ : Type, Connection τ ρ → α → Session τ β}

theorem bind {a : α} {result : Except Error β} (first : c.Runs x s calls (.ok a) mid)
    (second : c.Runs (fun τ c => f τ c a) mid more result last) :
    c.Runs (fun τ c => x τ c >>= f τ c) s (calls ++ more) result last := by
  constructor
  · rw [Session.runFrom_bind_of_ok first.1, second.1]
  · intro log
    rw [Session.runFrom_bind_of_ok (first.2 log), second.2, List.append_assoc]

theorem bind_error (first : c.Runs x s calls (.error e) last) :
    c.Runs (fun τ c => x τ c >>= f τ c) s calls (.error e) last := by
  constructor
  · exact Session.runFrom_bind_of_error first.1
  · intro log
    exact Session.runFrom_bind_of_error (first.2 log)

theorem map {g : α → β} {result : Except Error α} (first : c.Runs x s calls result last) :
    c.Runs (fun τ c => x τ c >>= fun a => Pure.pure (g a)) s calls (result.map g) last := by
  cases result with
  | error e => exact first.bind_error
  | ok a =>
    rw [← List.append_nil calls]
    exact first.bind (.pure (g a))

end Runs

end TypedSql.Connection
