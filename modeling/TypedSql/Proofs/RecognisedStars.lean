import TypedSql.Proofs.Catalog
import TypedSql.Proofs.Expansions
import TypedSql.Proofs.Typing

namespace TypedSql

namespace Expr

/-- Built from columns and values by the typed operations alone: no text from outside, and no
star at its end. -/
structure Built (e : Expr) : Prop where
  noRaws : e.raws = []
  noStar : e.isStarred = false

theorem Built.not_isWildcard {e : Expr} (built : e.Built) : ¬ IsWildcard e.template :=
  Expr.not_isWildcard built.noRaws built.noStar

theorem rawsAll_eq_nil {items : List Expr} (each : ∀ item ∈ items, item.raws = []) :
    rawsAll items = [] := by
  induction items with
  | nil => rfl
  | cons item rest ih =>
    obtain ⟨first, others⟩ := List.forall_mem_cons.1 each
    rw [rawsAll, first, ih others, List.append_nil]

theorem Typed.raws_eq_nil {t : SqlType} {e : Expr} (typed : Typed t e) : e.raws = [] := by
  induction typed with
  | column | bound | null | rowid | countAll => rfl
  | nullable _ ih => exact ih
  | call name types each ih => exact rawsAll_eq_nil ih
  | comparison _ _ _ _ first second | combination _ _ _ _ first second =>
    rw [raws, first, second, List.append_nil]
  | nullTest _ _ ih | like _ _ _ ih => rw [raws, ih]; rfl
  | qualified _ _ _ ih | cast _ _ ih | member _ _ _ ih | within _ _ ih
  | neg _ _ ih | complement _ _ ih
  | aggregate _ _ ih => rw [raws, ih]
  | aggregateDistinct _ _ ih => rw [raws, raws, ih]

theorem Typed.isStarred_eq_false {t : SqlType} {e : Expr} (typed : Typed t e) :
    e.isStarred = false := by
  induction typed with
  | qualified _ _ _ ih | nullable _ ih => exact ih
  | _ => rfl

theorem Typed.built {t : SqlType} {e : Expr} (typed : Typed t e) : e.Built :=
  ⟨typed.raws_eq_nil, typed.isStarred_eq_false⟩

end Expr

namespace Query

theorem template_star (v : Query) : v.star.template = v.table.reference.template ++ ".*" := by
  rw [← String.toList_inj]
  simp [star, Expr.template, Expr.fragment]

/-- The last dot of a star stands between the reference and the star, whatever the reference
is made of. -/
theorem splitLastDot_star (v : Query) :
    splitLastDot v.star.template.toList = some (v.table.reference.template.toList, ['*']) :=
  splitLastDot_eq_some_iff.2 ⟨by simp [template_star], by decide⟩

/-- What can be selected without failing for want of a source: everything, the star of a table
that the query reads, and what typed operations build. -/
inductive Selects (q : Query) : Expr → Prop where
  | star : q.Selects .star
  | starOf (v : Query) (read : v.table ∈ q.tables) : q.Selects v.star
  | built (built : e.Built) : q.Selects e

variable {q : Query}

/-- A table that the query reads is found by its reference, if not as itself then as an earlier
one that goes by the same reference. -/
theorem find?_source_of_mem_tables {table : TableRef} (read : table ∈ q.tables) :
    ∃ source ∈ q.sources, source.table.reference.template = table.reference.template ∧
      (q.sources.find? fun source => source.table.reference.template = table.reference.template) =
        some source := by
  rw [tables_eq] at read
  obtain ⟨source, isSource, same⟩ := List.mem_map.1 read
  cases found : q.sources.find? fun source => source.table.reference.template =
      table.reference.template with
  | none =>
    have differs := List.find?_eq_none.1 found source isSource
    exact absurd (by rw [same]; exact decide_eq_true rfl) differs
  | some first =>
    exact ⟨first, List.mem_of_find?_eq_some found, by simpa using List.find?_some found, rfl⟩

theorem expansionsOf_starOf {v : Query} (read : v.table ∈ q.tables) :
    ∃ source ∈ q.sources, source.table.reference.template = v.table.reference.template ∧
      q.expansionsOf v.star = [.reported true source] := by
  obtain ⟨source, isSource, same, found⟩ := find?_source_of_mem_tables read
  refine ⟨source, isSource, same, ?_⟩
  rw [expansionsOf_append v.template_star, found]

/-- Nothing that is selected so stands for an unknown source. -/
theorem Selects.known {item : Expr} (selects : q.Selects item) : ∀ x ∈ q.expansionsOf item,
    (∃ text, x = .written text) ∨ ∃ qualified, ∃ source ∈ q.sources,
      x = .reported qualified source := by
  intro x member
  cases selects with
  | star =>
    rw [expansionsOf_star rfl] at member
    obtain ⟨source, isSource, rfl⟩ := List.mem_map.1 member
    exact .inr ⟨_, source, isSource, rfl⟩
  | starOf v read =>
    obtain ⟨source, isSource, -, stands⟩ := expansionsOf_starOf read
    rw [stands] at member
    exact .inr ⟨true, source, isSource, List.mem_singleton.1 member⟩
  | built built =>
    rw [expansionsOf_of_not_wildcard built.not_isWildcard] at member
    exact .inl ⟨_, List.mem_singleton.1 member⟩

end Query

theorem Expansion.Fails.report {c : Connection σ ρ} {s last : σ} {qualified : Bool} {source : Query}
    {calls : List Call} {e : Error} (fails : Fails c s (.reported qualified source) calls e last) :
    (source.reportedColumns c).runFrom s = (.error e, last) := by
  cases fails with
  | unprepared refused => exact Session.runFrom_bind_of_error refused
  | undescribed prepared refused =>
    rw [Query.reportedColumns, Session.runFrom_bind_of_ok prepared, refused]

namespace Query
variable {c : Connection σ ρ} {q : Query} {s last : σ}

/-- A query that selects only what it can find resolves, or fails as one of its sources does. -/
theorem resolves_or_report_fails (c : Connection σ ρ) (s : σ)
    (selects : ∀ item ∈ q.columns, q.Selects item) :
    (∃ map last, (q.resolveColumns c).runFrom s = (.ok map, last)) ∨
      ∃ source ∈ q.sources, ∃ start e last,
        (source.reportedColumns c).runFrom start = (.error e, last) ∧
        (q.resolveColumns c).runFrom s = (.error e, last) := by
  rw [resolveColumns_eq]
  rcases Expansion.allGive_or_fails c s q.expansions with
    ⟨names, last, answered⟩ | ⟨before, x, after, names, mid, calls, e, last, shape, answered, fails⟩
  · exact .inl ⟨.ofNames names, last, answered.runs.map.1⟩
  · have member : x ∈ q.expansions := by
      rw [shape]
      exact List.mem_append_right before List.mem_cons_self
    obtain ⟨item, selected, ofItem⟩ := List.mem_flatMap.1 member
    rcases (selects item selected).known x ofItem with
      ⟨text, rfl⟩ | ⟨qualified, source, isSource, rfl⟩
    · cases fails
    · rw [shape]
      exact .inr
        ⟨source, isSource, mid, e, last, fails.report, (answered.runs_of_fails fails after).map.1⟩

theorem resultNames_append (c : Connection σ ρ) (q : Query) (front back : List Expr) :
    q.resultNames c (front ++ back) = do
      let names ← q.resultNames c front
      return names ++ (← q.resultNames c back) := by
  simp only [resultNames_eq_resolveAll, List.flatMap_append, Expansion.resolveAll_append]

/-- What is no star goes by its text, between the names of the items before it and of those
behind it. -/
theorem exists_names_around {e : Expr} (plain : ¬ IsWildcard e.template) {front back : List Expr}
    (listed : q.columns = front ++ e :: back) {map : ColumnMap}
    (resolved : (q.resolveColumns c).runFrom s = (.ok map, last)) :
    ∃ before after mid, (q.resultNames c front).runFrom s = (.ok before, mid) ∧
      (q.resultNames c back).runFrom mid = (.ok after, last) ∧
      map = .ofNames (before ++ e.template :: after) := by
  obtain ⟨names, _, found, built⟩ := Session.runFrom_bind_eq_ok.1 resolved
  cases built
  rw [listed, resultNames_append] at found
  obtain ⟨before, mid, ofFront, found⟩ := Session.runFrom_bind_eq_ok.1 found
  obtain ⟨rest, _, ofRest, built⟩ := Session.runFrom_bind_eq_ok.1 found
  cases built
  rw [resultNames, Selected.ofTemplate_of_not_wildcard plain, selectedNames, pure_bind] at ofRest
  obtain ⟨after, _, ofBack, built⟩ := Session.runFrom_bind_eq_ok.1 ofRest
  cases built
  exact ⟨before, after, mid, ofFront, ofBack, rfl⟩

end Query

/-- The last dot of a table's star stands behind its reference. Where the query reads the
table, its star stands for the columns of a source that goes by this reference, so a
query that selects only such stars, everything, and typed expressions resolves unless a
source fails to report, and then fails as the source does. A typed expression is no star: it
is registered under its text, behind the names of the items before it, and takes one place;
where its text comes again behind it, that later place counts. -/
theorem stars_are_recognised_exactly :
    (∀ v : Query, splitLastDot v.star.template.toList =
    some (v.table.reference.template.toList, ['*'])) ∧
    (∀ (t : SqlType) (e : Expr), Expr.Typed t e → e.Built) ∧
    ∀ {σ ρ : Type} (c : Connection σ ρ) (q : Query) (s : σ),
      (∀ v : Query, v.table ∈ q.tables → ∃ source ∈ q.sources,
        source.table.reference.template = v.table.reference.template ∧
        q.selectedNames c (Selected.ofTemplate v.star.template) = source.sourceNames c true) ∧
      ((∀ item ∈ q.columns, q.Selects item) →
        (∃ map last, (q.resolveColumns c).runFrom s = (.ok map, last)) ∨
        ∃ source ∈ q.sources, ∃ start e last,
          (source.reportedColumns c).runFrom start = (.error e, last) ∧
          (q.resolveColumns c).runFrom s = (.error e, last)) ∧
      ∀ e : Expr, e.Built →
        Selected.ofTemplate e.template = .expression e.template ∧
        ∀ front back map last, q.columns = front ++ e :: back →
          (q.resolveColumns c).runFrom s = (.ok map, last) →
          ∃ before after mid index, (q.resultNames c front).runFrom s = (.ok before, mid) ∧
            (q.resultNames c back).runFrom mid = (.ok after, last) ∧
            map = .ofNames (before ++ e.template :: after) ∧
            map.get? e.template = some index ∧ before.length ≤ index ∧
            (e.template ∉ after → index = before.length) := by
  refine ⟨Query.splitLastDot_star, fun _ _ typed => typed.built, fun c q s => ⟨?_, ?_, ?_⟩⟩
  · intro v read
    obtain ⟨source, isSource, same, stands⟩ := Query.expansionsOf_starOf read
    refine ⟨source, isSource, same, ?_⟩
    rw [Query.selectedNames_eq_resolveAll, stands, Expansion.resolveAll_singleton]
    rfl
  · exact Query.resolves_or_report_fails c s
  · intro e built
    refine ⟨Selected.ofTemplate_of_not_wildcard built.not_isWildcard, ?_⟩
    intro front back map last listed resolved
    obtain ⟨before, after, mid, ofFront, ofBack, rfl⟩ :=
      Query.exists_names_around built.not_isWildcard listed resolved
    obtain ⟨index, registered, notBefore, once⟩ :=
      ColumnMap.exists_get?_ofNames before e.template after
    exact ⟨before, after, mid, index, ofFront, ofBack, rfl, registered, notBefore, once⟩

/-- A table and a column whose names have dots, stars and quotes in them. -/
theorem stars_are_recognised_exactly_marked_names :
    let posts := (Query.ofTable "posts").labelled "p.\"*"
    let sum : Expr := .binary .add (.qualified posts.table (.column "x.*")) (.bound (.int 1))
    let q :=
      ((Query.ofTable "u.*" (some "*")).join posts (.column "visible")).select [posts.star, sum]
    let script : Script := ⟨[("SELECT * FROM \"*\".\"u.*\"", .ok ⟨.ok ["id"], []⟩),
      ("SELECT * FROM \"posts\"", .ok ⟨.ok ["id", "x.*"], []⟩)], .ok {}⟩
    (posts.table ∈ q.tables ∧ Expr.Typed (.required .int64) sum ∧ ∀ item ∈ q.columns,
      q.Selects item) ∧
    ∃ map, (q.resolveColumns script.connection).runFrom () = (.ok map, ()) ∧
      map.get? "(\"p.\"\"*\".\"x.*\" + ?)" = some 2 := by
  intro posts sum q script
  have read : posts.table ∈ q.tables := by decide
  have typed : Expr.Typed (.required .int64) sum :=
    .combination rfl rfl (.qualified _ rfl (.column "x.*")) (.bound (t := .required .int64) _)
  obtain ⟨-, built, recognised⟩ := stars_are_recognised_exactly
  obtain ⟨finds, resolves, placed⟩ := recognised script.connection q ()
  have selects : ∀ item ∈ q.columns, q.Selects item :=
    List.forall_mem_cons.2
      ⟨.starOf posts read, List.forall_mem_singleton.2 (.built (built _ _ typed))⟩
  refine ⟨⟨read, typed, selects⟩, ?_⟩
  have usersText : q.selectAll.probe.fragment.template = "SELECT * FROM \"*\".\"u.*\"" := by decide
  have postsText : posts.probe.fragment.template = "SELECT * FROM \"posts\"" := by decide
  have users : (q.selectAll.reportedColumns script.connection).runFrom () = (.ok ["id"], ()) :=
    Query.reportedColumns_scripted usersText rfl
  have others : (posts.reportedColumns script.connection).runFrom () = (.ok ["id", "x.*"], ()) :=
    Query.reportedColumns_scripted postsText rfl
  obtain ⟨source, isSource, same, stands⟩ := finds posts read
  have found : source = posts := by
    rcases List.mem_cons.1 isSource with rfl | joined
    · exact absurd same (by decide)
    · exact List.mem_singleton.1 joined
  rw [found] at stands
  have front : (q.resultNames script.connection [posts.star]).runFrom () =
      (.ok (posts.namesFor true ["id", "x.*"] ++ []), ()) := by
    rw [Query.resultNames, stands]
    exact Session.runFrom_bind_eq_ok.2 ⟨_, (), Query.sourceNames_ok_iff.2 ⟨_, others, rfl⟩, rfl⟩
  rcases resolves selects with ⟨map, _, resolved⟩ | ⟨unreported, isSource, _, _, _, failed, -⟩
  · refine ⟨map, resolved, ?_⟩
    obtain ⟨-, atPlace⟩ := placed sum (built _ _ typed)
    obtain ⟨before, after, _, index, ofFront, ofBack, -, registered, -, once⟩ :=
      atPlace [posts.star] [] map _ rfl resolved
    cases front.symm.trans ofFront
    cases ofBack
    have text : sum.template = "(\"p.\"\"*\".\"x.*\" + ?)" := by decide
    rw [← text, registered, once List.not_mem_nil]
    rfl
  · rcases List.mem_cons.1 isSource with rfl | joined
    · cases users.symm.trans failed
    · obtain rfl := List.mem_singleton.1 joined
      cases others.symm.trans failed

end TypedSql
