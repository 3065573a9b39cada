import Mathlib.Data.List.Forall2
import TypedSql.Proofs.Catalog
import TypedSql.Proofs.Positions
import TypedSql.Proofs.SourceNames

namespace TypedSql

open Query (allSourceNames_ok_iff sourceNames_ok_iff reports_eq_map)

section Alignment
variable {d : Catalog} {c : Connection σ ρ} {q : Query} {s last : σ}

theorem forall₂_namesFor {bare qualified : Bool} (named : qualified = true ∨ bare = true)
    (source : Query) : List.Forall₂ (fun name column => column.GoesBy bare name)
      (source.namesFor qualified (d.tableColumns source.table)) (d.allOf source.table) := by
  rw [Query.namesFor, Catalog.allOf, List.forall₂_map_left_iff, List.forall₂_map_right_iff,
    List.forall₂_same]
  intro column _
  cases qualified with
  | true => exact .inl rfl
  | false => exact .inr ⟨named.resolve_left Bool.false_ne_true, rfl⟩

theorem forall₂_allNames {bare qualified : Bool} (named : qualified = true ∨ bare = true)
    (sources : List Query) : List.Forall₂ (fun name column => column.GoesBy bare name)
      ((sources.zip (sources.map fun source => d.tableColumns source.table)).flatMap
        fun (source, columns) => source.namesFor qualified columns)
      ((sources.map Query.table).flatMap d.allOf) := by
  induction sources with
  | nil => exact .nil
  | cons source rest ih => exact List.rel_append (forall₂_namesFor named source) ih

theorem reported_of_source (reports : d.Reports c q) (whole : d.ExpandsWhole q) {source : Query}
    (member : source ∈ q.sources) (expands : q.Expands source) (first : σ) (columns : List String)
    (next : σ) (reported : (source.reportedColumns c).runFrom first = (.ok columns, next)) :
    columns = d.tableColumns source.table := by
  rw [reports source member first columns next reported]
  rcases List.mem_cons.1 member with rfl | target
  · exact d.columnNames_probe rfl
  · obtain ⟨join, joined, rfl⟩ := List.mem_map.1 target
    exact whole join joined expands

theorem forall₂_selectedNames (reports : d.Reports c q) (whole : d.ExpandsWhole q)
    {e : Expr} (selected : e ∈ q.columns) {names : List String}
    (resolved :
      (q.selectedNames c (Selected.ofTemplate e.template)).runFrom s = (.ok names, last)) :
    List.Forall₂ (fun name column => column.GoesBy q.joins.isEmpty name) names
      (d.selected q.tables e) := by
  rw [q.tables_eq]
  by_cases wildcard : IsWildcard e.template
  · rcases wildcard with star | ⟨reference, starOf⟩
    · rw [star, Selected.ofTemplate_star] at resolved
      obtain ⟨columns, reported, rfl⟩ := allSourceNames_ok_iff.1 resolved
      have known := reports_eq_map (fun source member =>
        reported_of_source reports whole member ⟨e, selected, .inl star⟩) reported
      rw [Catalog.selected, if_pos star, known]
      refine forall₂_allNames ?_ q.sources
      cases q.joins.isEmpty <;> simp
    · rw [starOf, Selected.ofTemplate_append, Query.selectedNames] at resolved
      rw [d.selected_of_append starOf]
      cases found : q.sources.find? fun source => source.table.reference.template = reference with
      | none =>
        rw [found] at resolved
        cases resolved
      | some source =>
        rw [found] at resolved
        obtain ⟨columns, reported, rfl⟩ := sourceNames_ok_iff.1 resolved
        have member := List.mem_of_find?_eq_some found
        have named : source.table.reference.template = reference := by
          simpa using List.find?_some found
        have expands : q.Expands source := ⟨e, selected, .inr (named ▸ starOf)⟩
        rw [reported_of_source reports whole member expands s columns last reported]
        exact forall₂_namesFor (.inl rfl) source
  · rw [Selected.ofTemplate_of_not_wildcard wildcard] at resolved
    cases resolved
    rw [d.selected_of_not_wildcard wildcard]
    exact .cons rfl .nil

theorem forall₂_resultNames (reports : d.Reports c q) (whole : d.ExpandsWhole q)
    {columns : List Expr} (selected : ∀ e ∈ columns, e ∈ q.columns) {names : List String}
    (resolved : (q.resultNames c columns).runFrom s = (.ok names, last)) :
    List.Forall₂ (fun name column => column.GoesBy q.joins.isEmpty name) names
      (columns.flatMap (d.selected q.tables)) := by
  induction columns generalizing s names with
  | nil =>
    cases resolved
    exact .nil
  | cons e rest ih =>
    obtain ⟨inQuery, restInQuery⟩ := List.forall_mem_cons.1 selected
    obtain ⟨firstNames, next, first, resolved⟩ := Session.runFrom_bind_eq_ok.1 resolved
    obtain ⟨restNames, _, others, built⟩ := Session.runFrom_bind_eq_ok.1 resolved
    cases built
    exact List.rel_append (forall₂_selectedNames reports whole inQuery first)
      (ih restInQuery others)

end Alignment

/-- When a query resolves, it counts as many names as the database returns columns, and
each position of the map holds a column that goes by the name of the position, provided
that the selection of each join target that a star expands reports the columns of its table. -/
theorem resolved_names_meet_columns {σ ρ : Type} (d : Catalog) (c : Connection σ ρ) (q : Query)
    (s last : σ) (map : ColumnMap) (reports : d.Reports c q) (whole : d.ExpandsWhole q)
    (resolved : (q.resolveColumns c).runFrom s = (.ok map, last)) :
    ∃ names, (q.resultNames c q.columns).runFrom s = (.ok names, last) ∧ map = .ofNames names ∧
      names.length = (d.resultColumns q).length ∧
      (∀ name index, map.get? name = some index → ∃ column,
        (d.resultColumns q)[index]? = some column ∧ column.GoesBy q.joins.isEmpty name) ∧
      ∀ column ∈ d.resultColumns q, ∃ name ∈ map.names, column.GoesBy q.joins.isEmpty name := by
  obtain ⟨names, _, found, built⟩ := Session.runFrom_bind_eq_ok.1 resolved
  cases built
  have aligned : List.Forall₂ _ names (d.resultColumns q) :=
    forall₂_resultNames reports whole (fun _ member => member) found
  obtain ⟨lengths, goesBy⟩ := List.forall₂_iff_get.1 aligned
  refine ⟨names, found, rfl, lengths, fun name index registered => ?_, fun column member => ?_⟩
  · have atIndex := (ColumnMap.get?_ofNames_eq_some_iff.1 registered).1
    obtain ⟨inNames, rfl⟩ := List.getElem?_eq_some_iff.1 atIndex
    have inColumns : index < (d.resultColumns q).length := lengths ▸ inNames
    exact ⟨_, List.getElem?_eq_getElem inColumns, goesBy index inNames inColumns⟩
  · obtain ⟨index, inColumns, rfl⟩ := List.getElem_of_mem member
    have inNames : index < names.length := lengths ▸ inColumns
    exact ⟨names[index], ColumnMap.mem_names_ofNames.2 (List.getElem_mem inNames),
      goesBy index inNames inColumns⟩

theorem reports_of_answers {d : Catalog} {c : Connection Unit ρ} {q : Query}
    (answers : ∀ source ∈ q.sources,
      (source.reportedColumns c).runFrom () = (.ok (d.columnNames source.probe), ())) :
    d.Reports c q := by
  intro source member _ columns _ reported
  cases (answers source member).symm.trans reported
  rfl

/-- A joined table that is expanded after an expression, over a script that reports it. -/
theorem resolved_names_meet_columns_users_posts :
    let d : Catalog := ⟨fun _ table => if table = "users" then ["id", "name"] else ["id", "title"],
      fun _ => "count"⟩
    let posts := Query.ofTable "posts"
    let q := ((Query.ofTable "users").join posts (.column "visible")).select [.countAll, posts.star]
    let script : Script := ⟨[("SELECT * FROM \"users\"", .ok ⟨.ok ["id", "name"], []⟩),
      ("SELECT * FROM \"posts\"", .ok ⟨.ok ["id", "title"], []⟩)], .ok {}⟩
    ∃ map, d.Reports script.connection q ∧
      d.ExpandsWhole q ∧
      (q.resolveColumns script.connection).runFrom () = (.ok map, ()) ∧
      ∀ name index, map.get? name = some index → ∃ column,
        (d.resultColumns q)[index]? = some column ∧ column.GoesBy false name := by
  intro d posts q script
  have usersText : q.selectAll.probe.fragment.template = "SELECT * FROM \"users\"" := by decide
  have postsText : posts.probe.fragment.template = "SELECT * FROM \"posts\"" := by decide
  have usersNames : d.columnNames q.selectAll.probe = ["id", "name"] := by decide
  have postsNames : d.columnNames posts.probe = ["id", "title"] := by decide
  have users : (q.selectAll.reportedColumns script.connection).runFrom () =
      (.ok ["id", "name"], ()) :=
    Query.reportedColumns_scripted usersText rfl
  have others : (posts.reportedColumns script.connection).runFrom () = (.ok ["id", "title"], ()) :=
    Query.reportedColumns_scripted postsText rfl
  have reports : d.Reports script.connection q :=
    reports_of_answers (List.forall_mem_cons.2
      ⟨usersNames ▸ users, List.forall_mem_singleton.2 (postsNames ▸ others)⟩)
  have whole : d.ExpandsWhole q := by
    intro join member _
    obtain rfl := List.mem_singleton.1 member
    decide
  have count : Selected.ofTemplate Expr.countAll.template = .expression "count(*)" := by decide
  have star : Selected.ofTemplate posts.star.template = .everythingOf "\"posts\"" := by decide
  have source : (q.sources.find? fun source => source.table.reference.template = "\"posts\"") =
      some posts :=
    (List.find?_cons_of_neg (by decide)).trans (List.find?_cons_of_pos (by decide))
  have expanded : (q.selectedNames script.connection (.everythingOf "\"posts\"")).runFrom () =
      (.ok (posts.namesFor true ["id", "title"]), ()) := by
    rw [Query.selectedNames, source]
    exact sourceNames_ok_iff.2 ⟨_, others, rfl⟩
  have found : (q.resultNames script.connection q.columns).runFrom () =
      (.ok ("count(*)" :: posts.namesFor true ["id", "title"]), ()) := by
    refine Session.runFrom_bind_eq_ok.2 ⟨["count(*)"], (), count ▸ rfl, ?_⟩
    refine Session.runFrom_bind_eq_ok.2 ⟨posts.namesFor true ["id", "title"], (), ?_, rfl⟩
    exact Session.runFrom_bind_eq_ok.2 ⟨_, (), star ▸ expanded, rfl⟩
  have resolved : (q.resolveColumns script.connection).runFrom () = (.ok (.ofNames _), ()) :=
    Session.runFrom_bind_eq_ok.2 ⟨_, (), found, rfl⟩
  obtain ⟨names, _, _, _, positions, _⟩ :=
    resolved_names_meet_columns d script.connection q () () _ reports whole resolved
  exact ⟨_, reports, whole, resolved, positions⟩

/-- A joined query that selects one of its columns reports that one alone, while its star
gives them all: what follows the star is registered too early. -/
theorem narrow_target_misaligns :
    let d : Catalog :=
      ⟨fun _ table => if table = "users" then ["id", "name"] else ["id", "user_id", "title"],
      fun _ => "title"⟩
    let posts := (Query.ofTable "posts").select [.column "title"]
    let users := Query.ofTable "users"
    let q :=
      (users.join posts (.column "visible")).select
        [posts.star, .qualified users.table (.column "id")]
    let script : Script := ⟨[("SELECT * FROM \"users\"", .ok ⟨.ok ["id", "name"], []⟩),
      ("SELECT \"title\" FROM \"posts\"", .ok ⟨.ok ["title"], []⟩)], .ok {}⟩
    let names := ["\"posts\".\"title\"", "\"users\".\"id\""]
    (q.tables.map fun table => table.reference.template).Nodup ∧ d.Reports script.connection q ∧
      (q.resultNames script.connection q.columns).runFrom () = (.ok names, ()) ∧
      (q.resolveColumns script.connection).runFrom () = (.ok (.ofNames names), ()) ∧
      names.length ≠ (d.resultColumns q).length ∧
      (ColumnMap.ofNames names).get? "\"users\".\"id\"" = some 1 ∧
      (d.resultColumns q)[1]? = some (.ofTable posts.table "user_id") := by
  intro d posts users q script names
  have usersText : q.selectAll.probe.fragment.template = "SELECT * FROM \"users\"" := by decide
  have postsText : posts.probe.fragment.template = "SELECT \"title\" FROM \"posts\"" := by decide
  have usersNames : d.columnNames q.selectAll.probe = ["id", "name"] := by decide
  have postsNames : d.columnNames posts.probe = ["title"] := by decide
  have base : (q.selectAll.reportedColumns script.connection).runFrom () =
      (.ok ["id", "name"], ()) :=
    Query.reportedColumns_scripted usersText rfl
  have narrow : (posts.reportedColumns script.connection).runFrom () = (.ok ["title"], ()) :=
    Query.reportedColumns_scripted postsText rfl
  have reports : d.Reports script.connection q :=
    reports_of_answers (List.forall_mem_cons.2
      ⟨usersNames ▸ base, List.forall_mem_singleton.2 (postsNames ▸ narrow)⟩)
  have star : Selected.ofTemplate posts.star.template = .everythingOf "\"posts\"" := by decide
  have column : Selected.ofTemplate (Expr.qualified users.table (.column "id")).template =
      .expression "\"users\".\"id\"" := by decide
  have source : (q.sources.find? fun source => source.table.reference.template = "\"posts\"") =
      some posts :=
    (List.find?_cons_of_neg (by decide)).trans (List.find?_cons_of_pos (by decide))
  have expanded : (q.selectedNames script.connection (.everythingOf "\"posts\"")).runFrom () =
      (.ok ["\"posts\".\"title\""], ()) := by
    rw [Query.selectedNames, source]
    exact sourceNames_ok_iff.2 ⟨["title"], narrow, by decide⟩
  have found : (q.resultNames script.connection q.columns).runFrom () = (.ok names, ()) := by
    refine Session.runFrom_bind_eq_ok.2 ⟨_, (), star ▸ expanded, ?_⟩
    refine Session.runFrom_bind_eq_ok.2 ⟨["\"users\".\"id\""], (), ?_, rfl⟩
    refine Session.runFrom_bind_eq_ok.2 ⟨["\"users\".\"id\""], (), ?_, rfl⟩
    rw [column]
    rfl
  exact ⟨by decide, reports, found, Session.runFrom_bind_eq_ok.2 ⟨names, (), found, rfl⟩,
    by decide, by decide, by decide⟩

end TypedSql
