import TypedSql.Database.Connection
import TypedSql.Proofs.Iteration
import TypedSql.Proofs.UnionMembers

namespace TypedSql

/-- From a state, whatever its limit is, the query hands out what the limit leaves of these rows. -/
def Connection.HonoursLimits (c : Connection σ ρ) (s : σ) (q : Query) (all : List (List Value)) :
    Prop :=
  ∀ limit p next, (c.prepare ({ q with limit } : Query).fragment).runFrom s = (.ok p, next) →
    c.HandsOut p next (limited limit all)

namespace Query

/-- The number of rows that the query leaves out in front. -/
def offset (q : Query) : Nat :=
  (q.limit.bind Limit.offset).getD 0

/-- No row may be handed out, though there is one behind the offset. -/
def HidesFirst (q : Query) (all : List (List Value)) : Prop :=
  q.limit.any (·.length = 0) = true ∧ q.offset < all.length

theorem first_eq (q : Query) :
    q.first = { q with limit := some { length := 1, offset := q.limit.bind Limit.offset } } := by
  unfold first
  cases q.limit.bind Limit.offset <;> rfl

theorem with_limit_eq {limit : Option Limit} (q : Query) (same : q.limit = limit) :
    { q with limit } = q := by
  subst same
  cases q
  rfl

theorem limited_first (q : Query) (all : List (List Value)) :
    (limited q.first.limit all).head? = all[q.offset]? := by
  simp [first_eq, limited, offset, List.head?_take]

/-- What the limit leaves begins behind the offset, if it leaves anything. -/
theorem head?_limited_eq_iff (q : Query) (all : List (List Value)) :
    all[q.offset]? = (limited q.limit all).head? ↔ ¬ q.HidesFirst all := by
  unfold HidesFirst offset
  cases q.limit with
  | none => simp [limited, List.head?_eq_getElem?]
  | some limit =>
    obtain ⟨length, offset⟩ := limit
    cases length with
    | zero => simp [limited]
    | succ length => simp [limited, List.head?_take]

section Pluck
variable {c : Connection σ ρ} {s : σ} {q : Query} {all : List (List Value)}

theorem runFrom_rows (describes : c.Describes s) {p : ρ}
    (prepared : ((c.prepare q.fragment).runFrom s).1 = .ok p) :
    (q.rows c).runFrom s =
      (((q.resolveColumns c).runFrom s).1.map fun columns => { statement := p, columns }, s) := by
  have resolved := (keeps_resolveColumns describes q).runFrom_eq
  rw [rows, Session.runFrom_bind_of_ok (describes.prepare_eq prepared)]
  rcases names : ((q.resolveColumns c).runFrom s).1 with e | columns
  · rw [names] at resolved
    exact Session.runFrom_bind_of_error resolved
  · rw [names] at resolved
    exact Session.runFrom_bind_of_ok resolved

theorem runFrom_pluck {rows : Rows ρ} {next : σ}
    (prepared : (q.first.rows c).runFrom s = (.ok rows, next)) :
    ((q.pluck c).runFrom s).1 = match ((rows.next c).run next).1.1 with
      | none => .ok none
      | some (.ok row) => .ok (some row)
      | some (.error e) => .error e := by
  rw [pluck, Session.runFrom_bind_of_ok prepared, Session.runFrom_lift_bind]
  rcases (rows.next c).run next with ⟨⟨_ | _ | row, rest⟩, last⟩ <;> rfl

end Pluck

end Query

open Query

/-- On a database that hands out what LIMIT and OFFSET leave of a query's rows, and on which
nothing fails but the resolution of columns, iterating gives all that the limit leaves and
plucking the row behind the offset. The two agree on the first row, or on there being none,
exactly when the limit does not hide a row by allowing none at all. -/
theorem pluck_agrees_iff {c : Connection σ ρ} {s : σ} {q : Query} {all : List (List Value)}
    (describes : c.Describes s) (honours : c.HonoursLimits s q all)
    (prepares : ∃ p, ((c.prepare q.fragment).runFrom s).1 = .ok p)
    (preparesFirst : ∃ p, ((c.prepare q.first.fragment).runFrom s).1 = .ok p) :
    (∃ e, ((q.rows c).runFrom s).1 = .error e ∧ ((q.pluck c).runFrom s).1 = .error e) ∨
    ∃ rows, (q.rows c).runFrom s = (.ok rows, s) ∧
      (∀ n, ((rows.upTo c n).run s).1 =
        ((limited q.limit all).take n).map fun values => .ok ⟨rows.columns, values⟩) ∧
      ((q.pluck c).runFrom s).1 = .ok (all[q.offset]?.map (Row.mk rows.columns)) ∧
      (((q.pluck c).runFrom s).1 = .ok ((limited q.limit all).head?.map (Row.mk rows.columns)) ↔
        ¬ q.HidesFirst all) := by
  obtain ⟨p, prepared⟩ := prepares
  obtain ⟨first, preparedFirst⟩ := preparesFirst
  have same : q.first.resolveColumns c = q.resolveColumns c := by
    rw [first_eq, resolveColumns_limit]
  have iterated := runFrom_rows describes prepared
  have plucked := runFrom_rows describes preparedFirst
  rw [same] at plucked
  rcases resolved : ((q.resolveColumns c).runFrom s).1 with e | columns
  · left
    rw [resolved] at iterated plucked
    refine ⟨e, congrArg Prod.fst iterated, ?_⟩
    rw [pluck, Session.runFrom_bind_of_error plucked]
  · right
    rw [resolved] at iterated plucked
    have ready := describes.prepare_eq prepared
    have readyFirst := describes.prepare_eq preparedFirst
    have hands : c.HandsOut p s (limited q.limit all) :=
      honours q.limit p s (by rw [q.with_limit_eq rfl]; exact ready)
    have handsFirst : c.HandsOut first s (limited q.first.limit all) := by
      rw [first_eq] at readyFirst ⊢
      exact honours _ first s readyFirst
    have found : ((q.pluck c).runFrom s).1 = .ok (all[q.offset]?.map (Row.mk columns)) := by
      rw [runFrom_pluck plucked, Rows.next_of_handsOut handsFirst, limited_first]
      cases all[q.offset]? <;> rfl
    refine ⟨⟨p, columns⟩, iterated, Rows.upTo_of_handsOut hands, found, ?_⟩
    have injective : Function.Injective (Option.map (Row.mk columns)) :=
      Option.map_injective fun first second same => (Row.mk.inj same).2
    rw [found, Except.ok.injEq, injective.eq_iff, head?_limited_eq_iff]

/-- A table behind an engine that reads the limit of each statement. -/
def Engine.ofRows (columns : List String) : Engine (List (List Value)) where
  describe _ _ := .ok columns
  run rows statement :=
    match Clauses.Compound.read statement.lexemes with
    | some c => (.ok ((limited c.limit rows).map fun row => row.map Value.cell, {}), rows)
    | none => (.error (.database "syntax error"), rows)

theorem Engine.honoursLimits_ofRows {q : Query} (each : ∀ e ∈ q.expressions, e.fragment.Contained)
    (bare : ∀ m ∈ q.unions, m.IsBare) (columns : List String) (all : List (List Value)) :
    (Engine.ofRows columns).connection.HonoursLimits all q all := by
  intro limit p next prepared
  obtain ⟨fresh, statement, rfl⟩ : p.rows = none ∧
    p.statement = ({ q with limit } : Query).fragment ∧
      next = all := by
    cases prepared
    exact ⟨rfl, rfl, rfl⟩
  have same : ∀ e ∈ ({ q with limit } : Query).expressions, e.fragment.Contained := by
    rw [expressions_eq] at each ⊢
    exact each
  have read := read_of_bare same bare
  have ran : (Engine.ofRows columns).run next p.statement =
      (.ok ((limited limit next).map fun row => row.map Value.cell, {}), next) := by
    simp only [Engine.ofRows, statement, read]
  exact Engine.handsOut_of_fetch _ fresh (Engine.fetch_of_run _ ran)

/-- The second of three rows. -/
theorem pluck_agrees_iff_second_row :
    let c := (Engine.ofRows ["id"]).connection
    let all := [[Value.int 1], [.int 2], [.int 3]]
    let q := (Query.ofTable "users").takeFrom 5 1
    c.Describes all ∧ c.HonoursLimits all q all ∧ ((q.pluck c).runFrom all).1 =
      .ok ((limited q.limit all).head?.map (Row.mk (ColumnMap.ofNames ["\"id\""]))) := by
  intro c all q
  have describes : c.Describes all := (Engine.ofRows ["id"]).describes all
  have honours : c.HonoursLimits all q all :=
    Engine.honoursLimits_ofRows (by decide +kernel) (List.forall_mem_nil _) ["id"] all
  have resolved : ((q.resolveColumns c).runFrom all).1 = .ok (ColumnMap.ofNames ["\"id\""]) := rfl
  refine ⟨describes, honours, ?_⟩
  rcases pluck_agrees_iff describes honours ⟨_, rfl⟩ ⟨_, rfl⟩ with
    ⟨e, failed, -⟩ | ⟨rows, iterated, -, -, agrees⟩
  · cases failed
  · cases iterated
    exact agrees.2 (by simp [HidesFirst, q, takeFrom])

/-- LIMIT 0 leaves no row of a table in memory, and plucking finds the one that is there. -/
theorem pluck_finds_hidden_row :
    let column : Database.ColumnDef := { name := "id" }
    let db : Database := { tables := [⟨"t", [column], [⟨1, [.int 7]⟩]⟩] }
    let q := (Query.ofTable "t").take 0
    let iterated : Session Database (List (Except Error Row)) :=
      q.rows Database.connection >>= fun rows => rows.upTo Database.connection 1
    (iterated.runFrom db).1.toOption.map List.length = some 0 ∧
      ((q.pluck Database.connection).runFrom db).1.toOption =
        some (some ⟨ColumnMap.ofNames ["\"id\""], [.int 7]⟩) := by
  decide +kernel

end TypedSql
