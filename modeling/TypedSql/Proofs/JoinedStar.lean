import Mathlib.Data.List.Nodup
import TypedSql.Connection.Scripted
import TypedSql.Proofs.Positions
import TypedSql.Proofs.SourceNames
import TypedSql.Proofs.Wildcards

namespace TypedSql

namespace Query

/-- The qualified names of the columns that sources reported, in order. -/
def qualifiedNames (reported : List (Query × List String)) : List String :=
  reported.flatMap fun (source, columns) => source.namesFor true columns

/-- The sources that reported a column of the name. -/
def reporting (reported : List (Query × List String)) (name : String) : List Query :=
  (reported.filter fun (_, columns) => name ∈ columns).map Prod.fst

variable {reported : List (Query × List String)} {name : String}

theorem mem_namesFor {source : Query} {columns : List String} :
    name ∈ source.namesFor true columns ↔
      ∃ column ∈ columns, Text.qualify source.table.reference.template column = name := by
  simp [namesFor]

theorem nodup_qualifiedNames
    (references : (reported.map fun (source, _) => source.table.reference.template).Nodup)
    (distinct : ∀ columns ∈ reported.map Prod.snd, columns.Nodup) :
    (qualifiedNames reported).Nodup := by
  refine List.nodup_flatMap.2 ⟨fun report member => ?_, ?_⟩
  · have columnsDiffer := distinct report.2 (List.mem_map_of_mem member)
    refine columnsDiffer.map fun first second same => ?_
    exact (Text.qualify_inj.1 same).2
  · refine (List.pairwise_map.1 references).imp fun differ => ?_
    intro name first second
    obtain ⟨_, _, rfl⟩ := mem_namesFor.1 first
    obtain ⟨_, _, same⟩ := mem_namesFor.1 second
    exact differ (Text.qualify_inj.1 same).1.symm

/-- A column stands behind the columns of all earlier sources. -/
theorem getElem?_qualifiedNames {k i : Nat} {source : Query} {columns : List String}
    (report : reported[k]? = some (source, columns)) (column : columns[i]? = some name) :
    (qualifiedNames reported)[((reported.take k).map Prod.snd).flatten.length + i]? =
      some (Text.qualify source.table.reference.template name) := by
  induction reported generalizing k with
  | nil => simp at report
  | cons first rest ih =>
    cases k with
    | zero =>
      obtain rfl := Option.some.inj report
      obtain ⟨inside, found⟩ := List.getElem?_eq_some_iff.1 column
      simp [qualifiedNames, namesFor, List.getElem?_append_left, inside, found]
    | succ k =>
      have later := ih (by simpa using report)
      have behind : (((first :: rest).take (k + 1)).map Prod.snd).flatten.length =
          first.2.length + ((rest.take k).map Prod.snd).flatten.length := by simp
      rw [behind, Nat.add_assoc]
      simpa [qualifiedNames, List.getElem?_append_right] using later

theorem quote_not_mem_qualifiedNames : Text.quote name ∉ qualifiedNames reported := by
  intro member
  obtain ⟨report, _, among⟩ := List.mem_flatMap.1 member
  obtain ⟨column, _, same⟩ := mem_namesFor.1 among
  exact Text.quote_ne_qualify _ _ _ same.symm

/-- A bare name ends just the qualified names of the sources that report it. -/
theorem filter_qualifiedNames (distinct : ∀ columns ∈ reported.map Prod.snd, columns.Nodup) :
    (qualifiedNames reported).filter
        (fun candidate => ('.' :: (Text.quote name).toList).isSuffixOf candidate.toList) =
      (reporting reported name).map fun source =>
        Text.qualify source.table.reference.template name := by
  induction reported with
  | nil => rfl
  | cons first rest ih =>
    obtain ⟨columnsDiffer, restDiffer⟩ := List.forall_mem_cons.1 distinct
    obtain ⟨source, columns⟩ := first
    have here : (source.namesFor true columns).filter
        (fun candidate => ('.' :: (Text.quote name).toList).isSuffixOf candidate.toList) =
        if name ∈ columns then [Text.qualify source.table.reference.template name] else [] := by
      have ends (column : String) :
          (('.' :: (Text.quote name).toList).isSuffixOf
            (Text.qualify source.table.reference.template column).toList) = (column == name) := by
        rw [Bool.eq_iff_iff, List.isSuffixOf_iff_suffix, Text.quote_suffix_qualify, beq_iff_eq]
      simp only [namesFor, if_true, List.filter_map, Function.comp_def, ends, List.filter_beq]
      split
      · rw [List.count_eq_one_of_mem columnsDiffer ‹_›]
        rfl
      · rw [List.count_eq_zero_of_not_mem ‹_›]
        rfl
    have others := ih restDiffer
    simp only [qualifiedNames, List.flatMap_cons, List.filter_append, here] at others ⊢
    rw [others]
    by_cases reports : name ∈ columns <;> simp [reporting, reports]

/-- The map of all reported columns under their qualified names. -/
def joinedMap (reported : List (Query × List String)) : ColumnMap :=
  .ofNames (qualifiedNames reported)

section JoinedMap
variable (references : (reported.map fun (source, _) => source.table.reference.template).Nodup)
  (distinct : ∀ columns ∈ reported.map Prod.snd, columns.Nodup) (values : List Value)

theorem get?_joinedMap_quote : (joinedMap reported).get? (Text.quote name) = none :=
  ColumnMap.get?_ofNames_eq_none_iff.2 quote_not_mem_qualifiedNames

include references distinct

theorem get?_joinedMap_qualify {k i : Nat} {source : Query} {columns : List String}
    (report : reported[k]? = some (source, columns)) (column : columns[i]? = some name) :
    (joinedMap reported).get? (Text.qualify source.table.reference.template name) =
      some (((reported.take k).map Prod.snd).flatten.length + i) :=
  ColumnMap.get?_ofNames_of_nodup (nodup_qualifiedNames references distinct)
    (getElem?_qualifiedNames report column)

theorem similar_joinedMap : (joinedMap reported).similar (Text.quote name) =
    ascending ((reporting reported name).map fun source =>
      Text.qualify source.table.reference.template name) := by
  rw [joinedMap, ColumnMap.similar_ofNames (nodup_qualifiedNames references distinct),
    filter_qualifiedNames distinct]

theorem getOptional_qualified (t : SqlType) {k i : Nat} {source : Query} {columns : List String}
    (report : reported[k]? = some (source, columns)) (column : columns[i]? = some name) :
    (Row.mk (joinedMap reported) values).getOptional ((Term.column t name).qualified source.table) =
      .ok (values[((reported.take k).map Prod.snd).flatten.length + i]?.bind t.base.decode) := by
  refine Row.getOptional_of_get? ?_ values
  rw [Term.template_qualified_column]
  exact get?_joinedMap_qualify references distinct report column

theorem getOptional_of_reporting_eq_singleton (t : SqlType) {source : Query}
    (only : reporting reported name = [source]) :
    (Row.mk (joinedMap reported) values).getOptional (Term.column t name) =
      (Row.mk (joinedMap reported) values).getOptional
        ((Term.column t name).qualified source.table) := by
  have holds : source ∈ reporting reported name := by simp [only]
  obtain ⟨pair, member, rfl⟩ := List.mem_map.1 holds
  obtain ⟨inReport, column⟩ := List.mem_filter.1 member
  obtain ⟨k, report⟩ := List.mem_iff_getElem?.1 inReport
  obtain ⟨i, atColumn⟩ := List.mem_iff_getElem?.1 (of_decide_eq_true column)
  have registered := get?_joinedMap_qualify references distinct report atColumn
  rw [← Term.template_qualified_column t] at registered
  refine Row.getOptional_of_similar get?_joinedMap_quote values ?_ registered
  rw [Term.template_column, similar_joinedMap references distinct, only, List.map_singleton,
    ascending_singleton, Term.template_qualified_column]

theorem getOptional_of_two_le_reporting (t : SqlType)
    (several : 2 ≤ (reporting reported name).length) :
    (Row.mk (joinedMap reported) values).getOptional (Term.column t name) =
      .error (.ambiguousColumn (Text.quote name)
        (ascending ((reporting reported name).map fun source =>
          Text.qualify source.table.reference.template name))) := by
  have candidates : 2 ≤ ((joinedMap reported).similar (Term.column t name).template).length := by
    rw [Term.template_column, similar_joinedMap references distinct, length_ascending,
      List.length_map]
    exact several
  have ambiguous := Row.getOptional_of_ambiguous get?_joinedMap_quote values candidates
  rw [Term.template_column, similar_joinedMap references distinct] at ambiguous
  exact ambiguous

theorem getOptional_of_reporting_eq_nil (t : SqlType) (nothing : reporting reported name = []) :
    (Row.mk (joinedMap reported) values).getOptional (Term.column t name) =
      .error (.noSuchColumn (Text.quote name) (ascending (qualifiedNames reported))) := by
  have alike : (joinedMap reported).similar (Term.column t name).template = [] := by
    rw [Term.template_column, similar_joinedMap references distinct, nothing, List.map_nil,
      ascending_nil]
  have unlike := Row.getOptional_of_unlike get?_joinedMap_quote values alike
  have listed : (joinedMap reported).names = ascending (qualifiedNames reported) :=
    ColumnMap.names_ofNames (nodup_qualifiedNames references distinct)
  rw [listed] at unlike
  exact unlike

end JoinedMap

theorem resolveColumns_of_star {c : Connection σ ρ} {q : Query} {s last : σ}
    {reports : List (List String)}
    (everything : q.columns.map Expr.template = ["*"]) (joined : q.joins ≠ [])
    (answers : (q.sources.mapM (reportedColumns c)).runFrom s = (.ok reports, last)) :
    (q.resolveColumns c).runFrom s = (.ok (joinedMap (q.sources.zip reports)), last) := by
  obtain ⟨column, single, star⟩ := List.map_eq_singleton_iff.1 everything
  have qualified : (!q.joins.isEmpty) = true := by simpa using joined
  have named : (allSourceNames c true q.sources).runFrom s =
      (.ok (qualifiedNames (q.sources.zip reports)), last) :=
    allSourceNames_ok_iff.2 ⟨reports, answers, rfl⟩
  rw [resolveColumns, single]
  refine Session.runFrom_bind_eq_ok.2 ⟨qualifiedNames (q.sources.zip reports), last, ?_, rfl⟩
  simp only [resultNames, star, Selected.ofTemplate_star, selectedNames, qualified]
  exact Session.runFrom_bind_eq_ok.2 ⟨_, last, named, by simp⟩

end Query

/-- A joined `SELECT *` resolves as soon as every source reports its columns. A qualified
column is read behind the columns of all earlier sources. A bare column is read in the
one source that reports it; several such sources, or none, are an error with the names
that there are. -/
theorem joined_star_reads_by_column {σ ρ : Type} (c : Connection σ ρ) (q : Query) (s last : σ)
    (reports : List (List String)) (everything : q.columns.map Expr.template = ["*"])
    (joined : q.joins ≠ [])
    (references : (q.sources.map fun source => source.table.reference.template).Nodup)
    (answers : (q.sources.mapM (Query.reportedColumns c)).runFrom s = (.ok reports, last))
    (distinct : ∀ columns ∈ reports, columns.Nodup) :
    ∃ map, (q.resolveColumns c).runFrom s = (.ok map, last) ∧
      ∀ (values : List Value) (t : SqlType) (name : String),
        let read (x : Term t) := (Row.mk map values).getOptional x
        let holders := Query.reporting (q.sources.zip reports) name
        (∀ k source columns i, q.sources[k]? = some source → reports[k]? = some columns →
          columns[i]? = some name →
          read ((Term.column t name).qualified source.table) =
            .ok (values[(reports.take k).flatten.length + i]?.bind t.base.decode)) ∧
        (∀ source, holders = [source] →
          read (.column t name) = read ((Term.column t name).qualified source.table)) ∧
        (2 ≤ holders.length → read (.column t name) =
          .error (.ambiguousColumn (Text.quote name) (ascending (holders.map fun source =>
            Text.qualify source.table.reference.template name)))) ∧
        (holders = [] → read (.column t name) =
          .error (.noSuchColumn (Text.quote name)
            (ascending (Query.qualifiedNames (q.sources.zip reports))))) := by
  have lengths := Query.length_reports answers
  have sources : (q.sources.zip reports).map Prod.fst = q.sources :=
    List.map_fst_zip (Nat.le_of_eq lengths.symm)
  have columnLists : (q.sources.zip reports).map Prod.snd = reports :=
    List.map_snd_zip (Nat.le_of_eq lengths)
  have columnsDiffer : ∀ columns ∈ (q.sources.zip reports).map Prod.snd, columns.Nodup :=
    columnLists.symm ▸ distinct
  have referencesDiffer :
      ((q.sources.zip reports).map fun (source, _) => source.table.reference.template).Nodup := by
    rw [← sources, List.map_map] at references
    exact references
  refine ⟨_, Query.resolveColumns_of_star everything joined answers, ?_⟩
  intro values t name read holders
  refine ⟨?_, ?_, ?_, ?_⟩
  · intro k source columns i atSource report column
    have pair : (q.sources.zip reports)[k]? = some (source, columns) :=
      List.getElem?_zip_eq_some.2 ⟨atSource, report⟩
    have reading := Query.getOptional_qualified referencesDiffer columnsDiffer values t pair column
    rw [List.map_take, columnLists] at reading
    exact reading
  · intro source only
    exact Query.getOptional_of_reporting_eq_singleton referencesDiffer columnsDiffer values t only
  · intro several
    exact Query.getOptional_of_two_le_reporting referencesDiffer columnsDiffer values t several
  · intro nothing
    exact Query.getOptional_of_reporting_eq_nil referencesDiffer columnsDiffer values t nothing

/-- Two tables that both have a column `id`, one under a label with a dot. -/
theorem joined_star_reads_by_column_users_posts :
    let posts := (Query.ofTable "posts").labelled "p.q"
    let q := (Query.ofTable "users").join posts (.column "visible")
    let script : Script := ⟨[("SELECT * FROM \"users\"", .ok ⟨.ok ["id", "name"], []⟩),
      ("SELECT * FROM \"posts\"", .ok ⟨.ok ["id", "a.b"], []⟩)], .ok {}⟩
    let c := script.connection
    let reports := [["id", "name"], ["id", "a.b"]]
    (q.columns.map Expr.template = ["*"] ∧ q.joins ≠ [] ∧
      (q.sources.map fun source => source.table.reference.template).Nodup ∧
      (q.sources.mapM (Query.reportedColumns c)).runFrom () = (.ok reports, ()) ∧
      ∀ columns ∈ reports, columns.Nodup) ∧
    ∃ map, (q.resolveColumns c).runFrom () = (.ok map, ()) ∧
      let row : Row := ⟨map, [.int 1, .text "ada", .int 3, .text "first"]⟩
      row.getOptional ((Term.column (.required .int64) "id").qualified posts.table) =
        .ok (some (3 : Int64)) ∧
      row.getOptional (.column (.required .text) "a.b") = .ok (some "first") ∧
      row.getOptional (.column (.required .int64) "id") =
        .error (.ambiguousColumn "\"id\"" (ascending ["\"users\".\"id\"", "\"p.q\".\"id\""])) := by
  intro posts q script c reports
  have everything : q.columns.map Expr.template = ["*"] := by decide
  have joined : q.joins ≠ [] := List.cons_ne_nil _ _
  have references : (q.sources.map fun source => source.table.reference.template).Nodup := by decide
  have answers : (q.sources.mapM (Query.reportedColumns c)).runFrom () = (.ok reports, ()) := by
    have usersText : q.selectAll.probe.fragment.template = "SELECT * FROM \"users\"" := by decide
    have postsText : posts.probe.fragment.template = "SELECT * FROM \"posts\"" := by decide
    have users : (q.selectAll.reportedColumns c).runFrom () = (.ok ["id", "name"], ()) :=
      Query.reportedColumns_scripted usersText rfl
    have others : (posts.reportedColumns c).runFrom () = (.ok ["id", "a.b"], ()) :=
      Query.reportedColumns_scripted postsText rfl
    exact Session.runFrom_mapM_cons_eq_ok.2 ⟨_, (), _, users,
      Session.runFrom_mapM_cons_eq_ok.2 ⟨_, (), [], others, rfl, rfl⟩, rfl⟩
  have distinct : ∀ columns ∈ reports, columns.Nodup := by decide
  refine ⟨⟨everything, joined, references, answers, distinct⟩, ?_⟩
  obtain ⟨map, resolved, reads⟩ :=
    joined_star_reads_by_column c q () () reports everything joined references answers distinct
  refine ⟨map, resolved, ?_, ?_, ?_⟩
  · exact (reads _ _ "id").1 1 posts ["id", "a.b"] 0 rfl rfl rfl
  · obtain ⟨qualified, single, -⟩ :=
      reads [.int 1, .text "ada", .int 3, .text "first"] (.required .text) "a.b"
    exact (single posts rfl).trans (qualified 1 posts ["id", "a.b"] 1 rfl rfl rfl)
  · have several :=
      (reads [.int 1, .text "ada", .int 3, .text "first"] (.required .int64) "id").2.2.1
    have quoted : Text.quote "id" = "\"id\"" := by decide
    have holders : (Query.reporting (q.sources.zip reports) "id").map (fun source =>
        Text.qualify source.table.reference.template "id") =
        ["\"users\".\"id\"", "\"p.q\".\"id\""] := by decide
    rw [holders, quoted] at several
    exact several (by decide)

end TypedSql
