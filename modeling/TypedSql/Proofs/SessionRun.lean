import TypedSql.Connection.Buffered

namespace TypedSql.Session

variable {σ α β : Type} {x : Session σ α} {f : α → Session σ β} {s last : σ}

/-- The result from a state, and the state afterwards. -/
def runFrom (x : Session σ α) (s : σ) : Except Error α × σ :=
  (ExceptT.run x).run s

@[simp] theorem runFrom_pure (a : α) (s : σ) : runFrom (pure a) s = (.ok a, s) := rfl

theorem runFrom_bind_of_ok {a : α} {next : σ} (first : x.runFrom s = (.ok a, next)) :
    runFrom (x >>= f) s = (f a).runFrom next := by
  simp only [runFrom, ExceptT.run_bind, StateT.run_bind] at first ⊢
  rw [first]
  rfl

theorem runFrom_bind_of_error {e : Error} (first : x.runFrom s = (.error e, last)) :
    runFrom (x >>= f) s = (.error e, last) := by
  simp only [runFrom, ExceptT.run_bind, StateT.run_bind] at first ⊢
  rw [first]
  rfl

theorem runFrom_bind_eq_ok {b : β} : runFrom (x >>= f) s = (.ok b, last) ↔
    ∃ a next, x.runFrom s = (.ok a, next) ∧ (f a).runFrom next = (.ok b, last) := by
  constructor
  · intro succeeds
    rcases first : x.runFrom s with ⟨e | a, next⟩
    · rw [runFrom_bind_of_error first] at succeeds
      cases succeeds
    · rw [runFrom_bind_of_ok first] at succeeds
      exact ⟨a, next, rfl, succeeds⟩
  · rintro ⟨a, next, first, second⟩
    rw [runFrom_bind_of_ok first, second]

theorem runFrom_mapM_cons_eq_ok {γ : Type} {f : γ → Session σ α} {a : γ} {rest : List γ}
    {results : List α} : runFrom ((a :: rest).mapM f) s = (.ok results, last) ↔
    ∃ b next others, (f a).runFrom s = (.ok b, next) ∧
      runFrom (rest.mapM f) next = (.ok others, last) ∧ b :: others = results := by
  rw [List.mapM_cons]
  constructor
  · intro succeeds
    obtain ⟨b, next, first, succeeds⟩ := runFrom_bind_eq_ok.1 succeeds
    obtain ⟨others, state, rest, built⟩ := runFrom_bind_eq_ok.1 succeeds
    cases built
    exact ⟨b, next, others, first, rest, rfl⟩
  · rintro ⟨b, next, others, first, rest, rfl⟩
    exact runFrom_bind_eq_ok.2 ⟨b, next, first, runFrom_bind_eq_ok.2 ⟨others, last, rest, rfl⟩⟩

end TypedSql.Session

namespace TypedSql.Engine

variable {σ : Type} (e : Engine σ) (s : σ)

@[simp] theorem runFrom_prepare (statement : Fragment) :
    (e.connection.prepare statement).runFrom s = (e.prepare s statement, s) := rfl

@[simp] theorem runFrom_execute (statement : Fragment) :
    (e.connection.execute statement).runFrom s = e.execute s statement := rfl

@[simp] theorem run_step (p : Prepared) : (e.connection.step p).run s = e.step s p := rfl

end TypedSql.Engine
