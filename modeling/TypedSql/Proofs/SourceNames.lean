import TypedSql.Connection.Resolve
import TypedSql.Connection.Scripted
import TypedSql.Proofs.QualifiedNames
import TypedSql.Proofs.SessionRun

namespace TypedSql.Query

open Session (runFrom_pure runFrom_bind_eq_ok runFrom_mapM_cons_eq_ok)

/-- The names of the given columns of a source. -/
def namesFor (qualified : Bool) (source : Query) (columns : List String) : List String :=
  columns.map fun column =>
    if qualified then Text.qualify source.table.reference.template column else Text.quote column

@[simp] theorem length_namesFor (qualified : Bool) (source : Query) (columns : List String) :
    (source.namesFor qualified columns).length = columns.length :=
  List.length_map _

section Reports
variable {c : Connection σ ρ} {s last : σ}

theorem sourceNames_ok_iff {source : Query} {qualified : Bool} {names : List String} :
    (source.sourceNames c qualified).runFrom s = (.ok names, last) ↔
      ∃ columns, (source.reportedColumns c).runFrom s = (.ok columns, last) ∧
        source.namesFor qualified columns = names := by
  have shape (columns : List String) :
      (columns.map fun column =>
        (if qualified then source.table.reference.template ++ "." else "") ++ Text.quote column) =
        source.namesFor qualified columns := by
    cases qualified <;> simp [namesFor, Text.qualify]
  simp only [sourceNames, runFrom_bind_eq_ok, runFrom_pure, shape, Prod.mk.injEq, Except.ok.injEq]
  constructor
  · rintro ⟨columns, next, reported, same, rfl⟩
    exact ⟨columns, reported, same⟩
  · rintro ⟨columns, reported, same⟩
    exact ⟨columns, last, reported, same, rfl⟩

theorem allSourceNames_ok_iff {qualified : Bool} {sources : List Query} {names : List String} :
    (allSourceNames c qualified sources).runFrom s = (.ok names, last) ↔
      ∃ reports, (sources.mapM (reportedColumns c)).runFrom s = (.ok reports, last) ∧
        (sources.zip reports).flatMap (fun (source, columns) => source.namesFor qualified columns) =
          names := by
  induction sources generalizing s last names with
  | nil => simp [allSourceNames, and_comm, eq_comm]
  | cons source rest ih =>
    simp only [allSourceNames, runFrom_mapM_cons_eq_ok, runFrom_bind_eq_ok, runFrom_pure,
      sourceNames_ok_iff, ih, Prod.mk.injEq, Except.ok.injEq]
    constructor
    · rintro ⟨_, next, ⟨columns, reported, rfl⟩, _, _, ⟨reports, others, rfl⟩, rfl, rfl⟩
      exact ⟨columns :: reports, ⟨columns, next, reports, reported, others, rfl⟩, rfl⟩
    · rintro ⟨_, ⟨columns, next, reports, reported, others, rfl⟩, rfl⟩
      exact ⟨_, next, ⟨columns, reported, rfl⟩, _, _, ⟨reports, others, rfl⟩, rfl, rfl⟩

theorem reports_eq_map {columnsOf : Query → List String} {sources : List Query}
    {reports : List (List String)}
    (known : ∀ source ∈ sources, ∀ first columns next,
      (source.reportedColumns c).runFrom first = (.ok columns, next) → columns = columnsOf source)
    (reported : (sources.mapM (reportedColumns c)).runFrom s = (.ok reports, last)) :
    reports = sources.map columnsOf := by
  induction sources generalizing s last reports with
  | nil =>
    cases reported
    rfl
  | cons source rest ih =>
    obtain ⟨first, others⟩ := List.forall_mem_cons.1 known
    obtain ⟨columns, next, tail, reportedFirst, reportedRest, rfl⟩ :=
      runFrom_mapM_cons_eq_ok.1 reported
    rw [first s columns next reportedFirst, ih others reportedRest, List.map_cons]

theorem length_reports {sources : List Query} {reports : List (List String)}
    (reported : (sources.mapM (reportedColumns c)).runFrom s = (.ok reports, last)) :
    reports.length = sources.length := by
  induction sources generalizing s last reports with
  | nil =>
    cases reported
    rfl
  | cons source rest ih =>
    obtain ⟨columns, next, tail, _, reportedRest, rfl⟩ := runFrom_mapM_cons_eq_ok.1 reported
    rw [List.length_cons, List.length_cons, ih reportedRest]

end Reports

theorem reportedColumns_scripted {script : Script} {source : Query} {text : String}
    {columns : List String} {rows : List (Except String (Option (List Value)))}
    (compiled : source.probe.fragment.template = text)
    (scripted : script.statements.reverse.lookup text = some (.ok ⟨.ok columns, rows⟩)) :
    (source.reportedColumns script.connection).runFrom () = (.ok columns, ()) := by
  have prepared : script.prepare source.probe.fragment = .ok ⟨.ok columns, rows⟩ := by
    simp only [Script.prepare, compiled, scripted]
  have answered : (script.connection.prepare source.probe.fragment).runFrom () =
      (.ok ⟨.ok columns, rows⟩, ()) := by
    simp only [Script.connection, prepared]
    rfl
  exact Session.runFrom_bind_of_ok answered

end TypedSql.Query
