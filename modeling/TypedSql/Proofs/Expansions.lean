import TypedSql.Connection.Run
import TypedSql.Proofs.Positions
import TypedSql.Proofs.Recording
import TypedSql.Proofs.SourceNames
import TypedSql.Proofs.Wildcards

/-! Resolution as two passes. The first one needs no database: it says what each selected
item stands for, from left to right. The second one asks the sources among these for their
columns, in turn, and breaks off where an answer is refused or a source is missing. -/
namespace TypedSql

/-- What a selected item stands for before the database is asked. -/
inductive Expansion where
  | written (text : String)
  | reported (qualified : Bool) (source : Query)
  | unknown (reference : String)

/-- The reference before a dot and a star at the end. -/
def starred? (text : String) : Option String :=
  match text.toList.reverse with
  | '*' :: '.' :: before => some (String.ofList before.reverse)
  | _ => none

theorem starred?_eq_some_iff {text reference : String} :
    starred? text = some reference ↔ text = reference ++ ".*" := by
  have reversed : text = reference ++ ".*" ↔
      text.toList.reverse = '*' :: '.' :: reference.toList.reverse := by
    rw [← String.toList_inj, ← List.reverse_inj]
    simp
  rw [reversed]
  unfold starred?
  split
  · rename_i before shape
    rw [shape, Option.some.injEq, ← String.toList_inj]
    simp [List.reverse_eq_iff]
  · rename_i other
    constructor
    · intro found
      cases found
    · intro shape
      exact absurd shape (other _)

theorem starred?_eq_none {text : String} (plain : ¬ IsWildcard text) : starred? text = none := by
  cases found : starred? text with
  | none => rfl
  | some reference => exact absurd (.inr ⟨reference, starred?_eq_some_iff.1 found⟩) plain

namespace Query

/-- An item stands for its own text. A star stands for all sources, qualified if there are
several, and the star of a reference for the first source that goes by it. -/
def expansionsOf (q : Query) (item : Expr) : List Expansion :=
  if item.template = "*" then q.sources.map (.reported !q.joins.isEmpty)
  else match starred? item.template with
    | none => [.written item.template]
    | some reference =>
      match q.sources.find? fun source => source.table.reference.template = reference with
      | some source => [.reported true source]
      | none => [.unknown reference]

/-- What the select list stands for, from left to right. -/
def expansions (q : Query) : List Expansion :=
  q.columns.flatMap q.expansionsOf

end Query

namespace Expansion

/-- The calls by which a source is asked for its columns; nothing else calls. -/
def requests : Expansion → List Call
  | .reported _ source => [.prepare source.probe.fragment, .columnNames]
  | .written _ | .unknown _ => []

/-- The names that an expansion comes to on a connection. -/
def resolve (c : Connection σ ρ) : Expansion → Session σ (List String)
  | .written text => return [text]
  | .reported qualified source => source.sourceNames c qualified
  | .unknown reference => throw (.query (.noSuchTable reference))

/-- The names of several expansions, one behind the other. -/
def resolveAll (c : Connection σ ρ) : List Expansion → Session σ (List String)
  | [] => return []
  | x :: rest => do
    let names ← x.resolve c
    return names ++ (← resolveAll c rest)

theorem resolveAll_append (c : Connection σ ρ) (first second : List Expansion) :
    resolveAll c (first ++ second) = do
      let names ← resolveAll c first
      return names ++ (← resolveAll c second) := by
  induction first with
  | nil => simp [resolveAll]
  | cons x rest ih =>
    simp only [List.cons_append, resolveAll, ih, bind_assoc, pure_bind, List.append_assoc]

theorem resolveAll_singleton (c : Connection σ ρ) (x : Expansion) :
    resolveAll c [x] = x.resolve c := by
  simp [resolveAll]

theorem resolveAll_reported (c : Connection σ ρ) (qualified : Bool) (sources : List Query) :
    resolveAll c (sources.map (.reported qualified)) =
      Query.allSourceNames c qualified sources := by
  induction sources with
  | nil => rfl
  | cons source rest ih => simp [resolveAll, resolve, Query.allSourceNames, ih]

end Expansion

namespace Query

section Expanding
variable {q : Query} {item : Expr}

theorem expansionsOf_star (star : item.template = "*") :
    q.expansionsOf item = q.sources.map (.reported !q.joins.isEmpty) :=
  if_pos star

theorem expansionsOf_append {reference : String} (starOf : item.template = reference ++ ".*") :
    q.expansionsOf item =
      match q.sources.find? fun source => source.table.reference.template = reference with
      | some source => [.reported true source]
      | none => [.unknown reference] := by
  have notStar : item.template ≠ "*" := by
    intro star
    have lengths := congrArg (fun text => text.toList.length) (starOf.symm.trans star)
    simp at lengths
  rw [expansionsOf, if_neg notStar, starred?_eq_some_iff.2 starOf]

theorem expansionsOf_of_not_wildcard (plain : ¬ IsWildcard item.template) :
    q.expansionsOf item = [.written item.template] := by
  have notStar : item.template ≠ "*" := fun star => plain (.inl star)
  rw [expansionsOf, if_neg notStar, starred?_eq_none plain]

end Expanding

theorem expansions_select (q : Query) (columns : List Expr) :
    (q.select columns).expansions = columns.flatMap q.expansionsOf := rfl

theorem selectedNames_eq_resolveAll (c : Connection σ ρ) (q : Query) (item : Expr) :
    q.selectedNames c (Selected.ofTemplate item.template) =
      Expansion.resolveAll c (q.expansionsOf item) := by
  by_cases wildcard : IsWildcard item.template
  · rcases wildcard with star | ⟨reference, starOf⟩
    · rw [star, Selected.ofTemplate_star, expansionsOf_star star, Expansion.resolveAll_reported]
      rfl
    · rw [starOf, Selected.ofTemplate_append, expansionsOf_append starOf, selectedNames]
      cases q.sources.find? fun source => source.table.reference.template = reference with
      | none => exact (Expansion.resolveAll_singleton c (.unknown reference)).symm
      | some source => exact (Expansion.resolveAll_singleton c (.reported true source)).symm
  · rw [Selected.ofTemplate_of_not_wildcard wildcard, expansionsOf_of_not_wildcard wildcard]
    exact (Expansion.resolveAll_singleton c (.written item.template)).symm

theorem resultNames_eq_resolveAll (c : Connection σ ρ) (q : Query) (columns : List Expr) :
    q.resultNames c columns = Expansion.resolveAll c (columns.flatMap q.expansionsOf) := by
  induction columns with
  | nil => rfl
  | cons item rest ih =>
    rw [List.flatMap_cons, Expansion.resolveAll_append, ← ih, ← selectedNames_eq_resolveAll]
    rfl

theorem resolveColumns_eq (c : Connection σ ρ) (q : Query) : q.resolveColumns c = do
    let names ← Expansion.resolveAll c q.expansions
    return ColumnMap.ofNames names := by
  rw [resolveColumns, resultNames_eq_resolveAll]
  rfl

theorem sourceNames_eq (c : Connection σ ρ) (qualified : Bool) (source : Query) :
    source.sourceNames c qualified = do
      let statement ← c.prepare source.probe.fragment
      let columns ← c.columnNames statement
      return source.namesFor qualified columns := by
  cases qualified <;> simp [sourceNames, reportedColumns, namesFor, Text.qualify]

end Query

namespace Expansion

/-- From a state the expansion is answered with names, which leaves a state behind. -/
inductive Gives (c : Connection σ ρ) : σ → Expansion → List String → σ → Prop where
  | written : Gives c s (.written text) [text] s
  | reported (prepared : (c.prepare source.probe.fragment).runFrom s = (.ok statement, next))
      (described : (c.columnNames statement).runFrom next = (.ok columns, last)) :
      Gives c s (.reported qualified source) (source.namesFor qualified columns) last

/-- From a state the expansion fails, after the calls that came to be made for it. -/
inductive Fails (c : Connection σ ρ) : σ → Expansion → List Call → Error → σ → Prop where
  | unknown : Fails c s (.unknown reference) [] (.query (.noSuchTable reference)) s
  | unprepared (refused : (c.prepare source.probe.fragment).runFrom s = (.error e, last)) :
      Fails c s (.reported qualified source) [.prepare source.probe.fragment] e last
  | undescribed (prepared : (c.prepare source.probe.fragment).runFrom s = (.ok statement, next))
      (refused : (c.columnNames statement).runFrom next = (.error e, last)) :
      Fails c s (.reported qualified source) [.prepare source.probe.fragment, .columnNames] e last

/-- The expansions are answered one after the other, each from the state that the one before
it left. -/
inductive AllGive (c : Connection σ ρ) : σ → List Expansion → List String → σ → Prop where
  | nil : AllGive c s [] [] s
  | cons (first : Gives c s x names next) (others : AllGive c next rest more last) :
      AllGive c s (x :: rest) (names ++ more) last

variable {c : Connection σ ρ} {s mid last : σ} {names : List String}

theorem gives_or_fails (c : Connection σ ρ) (s : σ) (x : Expansion) :
    (∃ names last, Gives c s x names last) ∨ ∃ calls e last, Fails c s x calls e last := by
  cases x with
  | written text => exact .inl ⟨_, _, .written⟩
  | unknown reference => exact .inr ⟨_, _, _, .unknown⟩
  | reported qualified source =>
    rcases prepared : (c.prepare source.probe.fragment).runFrom s with ⟨e | statement, next⟩
    · exact .inr ⟨_, _, _, .unprepared prepared⟩
    · rcases described : (c.columnNames statement).runFrom next with ⟨e | columns, last⟩
      · exact .inr ⟨_, _, _, .undescribed prepared described⟩
      · exact .inl ⟨_, _, .reported prepared described⟩

/-- Either all expansions are answered, or one fails behind some that are. -/
theorem allGive_or_fails (c : Connection σ ρ) (s : σ) (xs : List Expansion) :
    (∃ names last, AllGive c s xs names last) ∨
      ∃ before x after names mid calls e last, xs = before ++ x :: after ∧
        AllGive c s before names mid ∧ Fails c mid x calls e last := by
  induction xs generalizing s with
  | nil => exact .inl ⟨[], s, .nil⟩
  | cons x rest ih =>
    rcases gives_or_fails c s x with ⟨names, next, gives⟩ | ⟨calls, e, last, fails⟩
    · rcases ih next with
        ⟨more, last, others⟩ | ⟨before, y, after, more, mid, calls, e, last, rfl, others, fails⟩
      · exact .inl ⟨_, last, .cons gives others⟩
      · exact .inr ⟨x :: before, y, after, _, mid, calls, e, last, rfl, .cons gives others, fails⟩
    · exact .inr ⟨[], x, rest, [], s, calls, e, last, rfl, .nil, fails⟩

theorem Gives.runs (gives : Gives c s x names last) :
    c.Runs (fun _ c => x.resolve c) s x.requests (.ok names) last := by
  cases gives with
  | written => exact .pure _
  | reported prepared described =>
    simp only [Expansion.resolve, Query.sourceNames_eq]
    exact .bind (.prepare prepared) (.bind (.columnNames described) (.pure _))

theorem Fails.runs (fails : Fails c s x calls e last) :
    c.Runs (fun _ c => x.resolve c) s calls (.error e) last := by
  cases fails with
  | unknown => exact .throw _
  | unprepared refused =>
    simp only [Expansion.resolve, Query.sourceNames_eq]
    exact .bind_error (.prepare refused)
  | undescribed prepared refused =>
    simp only [Expansion.resolve, Query.sourceNames_eq]
    exact .bind (.prepare prepared) (.bind_error (.columnNames refused))

theorem AllGive.runs (answered : AllGive c s xs names last) :
    c.Runs (fun _ c => resolveAll c xs) s (xs.flatMap requests) (.ok names) last := by
  induction answered with
  | nil => exact .pure _
  | @cons s x names next rest more last first others ih =>
    rw [List.flatMap_cons]
    exact first.runs.bind ih.map

/-- Behind the answered expansions, the one that fails ends the run with its error. -/
theorem AllGive.runs_of_fails (answered : AllGive c s before names mid)
    (fails : Fails c mid x calls e last) (after : List Expansion) :
    c.Runs (fun _ c => resolveAll c (before ++ x :: after)) s (before.flatMap requests ++ calls)
      (.error e) last := by
  induction answered with
  | nil => exact fails.runs.bind_error
  | cons first others ih =>
    rw [List.flatMap_cons, List.append_assoc]
    exact first.runs.bind (ih fails).bind_error

end Expansion

open Expansion (AllGive Fails)

/-- Resolution follows the expansions of the select list from left to right. Where all are
answered, each name stands at the last of its positions among the names that they gave,
and each source among them has been asked once, in order, by preparing and describing its
own statement. Where one fails, its error is the result and nothing is called after it.
One of the two is the case. Reading rows prepares the query itself before that. -/
theorem resolution_follows_expansions {σ ρ : Type} (c : Connection σ ρ) (q : Query) (s : σ) :
    (∀ names last, AllGive c s q.expansions names last → ∃ map,
      c.Runs (fun _ c => q.resolveColumns c) s (q.expansions.flatMap Expansion.requests)
        (.ok map) last ∧
      ∀ name index, map.get? name = some index ↔
        names[index]? = some name ∧ ∀ later > index, names[later]? ≠ some name) ∧
    (∀ before x after names mid calls e last, q.expansions = before ++ x :: after →
      AllGive c s before names mid → Fails c mid x calls e last →
      c.Runs (fun _ c => q.resolveColumns c) s (before.flatMap Expansion.requests ++ calls)
        (.error e) last) ∧
    ((∃ names last, AllGive c s q.expansions names last) ∨
      ∃ before x after names mid calls e last, q.expansions = before ++ x :: after ∧
        AllGive c s before names mid ∧ Fails c mid x calls e last) ∧
    (∀ e last, (c.prepare q.fragment).runFrom s = (.error e, last) →
      c.Runs (fun _ c => q.rows c) s [.prepare q.fragment] (.error e) last) ∧
    ∀ statement next calls result last, (c.prepare q.fragment).runFrom s = (.ok statement, next) →
      c.Runs (fun _ c => q.resolveColumns c) next calls result last →
      c.Runs (fun _ c => q.rows c) s (.prepare q.fragment :: calls)
        (result.map fun columns => { statement, columns }) last := by
  refine ⟨?_, ?_, Expansion.allGive_or_fails c s q.expansions, ?_, ?_⟩
  · intro names last answered
    refine ⟨.ofNames names, ?_, fun name index => ColumnMap.get?_ofNames_eq_some_iff⟩
    simp only [Query.resolveColumns_eq]
    exact answered.runs.map
  · intro before x after names mid calls e last shape answered fails
    simp only [Query.resolveColumns_eq, shape]
    exact (answered.runs_of_fails fails after).map
  · intro e last refused
    exact .bind_error (.prepare refused)
  · intro statement next calls result last prepared resolved
    exact .bind (.prepare prepared) resolved.map

/-- A joined table between two counts, and before a table that is not joined. -/
theorem resolution_follows_expansions_users_posts :
    let posts := Query.ofTable "posts"
    let joined := (Query.ofTable "users").join posts (.column "visible")
    let q := joined.select [.countAll, posts.star, .countAll]
    let broken := joined.select [posts.star, (Query.ofTable "ghosts").star, .star]
    let c :=
      (Script.mk [("SELECT * FROM \"posts\"", .ok ⟨.ok ["id", "title"], []⟩)] (.ok {})).connection
    let names := ["count(*)", "\"posts\".\"id\"", "\"posts\".\"title\"", "count(*)"]
    let asked : List Call := [.prepare ⟨"SELECT * FROM \"posts\"", []⟩, .columnNames]
    AllGive c () q.expansions names () ∧
      (∃ map, c.Runs (fun _ c => q.resolveColumns c) () asked (.ok map) () ∧
        map.get? "count(*)" = some 3 ∧ map.get? "\"posts\".\"title\"" = some 2) ∧
      c.Runs (fun _ c => broken.resolveColumns c) () asked
          (.error (.query (.noSuchTable "\"ghosts\""))) () := by
  intro posts joined q broken c names asked
  have statement : posts.probe.fragment = ⟨"SELECT * FROM \"posts\"", []⟩ := by decide
  have prepared : (c.prepare posts.probe.fragment).runFrom () =
      (.ok ⟨.ok ["id", "title"], []⟩, ()) := by
    rw [statement]
    rfl
  have answered :
      Expansion.Gives c () (.reported true posts) (posts.namesFor true ["id", "title"]) () :=
    .reported prepared rfl
  have starOf : joined.expansionsOf posts.star = [.reported true posts] := by
    have text : posts.star.template = "\"posts\"" ++ ".*" := by decide
    rw [Query.expansionsOf_append text]
    have found :
      (joined.sources.find? fun source => source.table.reference.template = "\"posts\"") =
        some posts :=
      (List.find?_cons_of_neg (by decide)).trans (List.find?_cons_of_pos (by decide))
    rw [found]
  have ghosts : joined.expansionsOf (Query.ofTable "ghosts").star = [.unknown "\"ghosts\""] := by
    have text : (Query.ofTable "ghosts").star.template = "\"ghosts\"" ++ ".*" := by decide
    rw [Query.expansionsOf_append text]
    have missing :
      (joined.sources.find? fun source => source.table.reference.template = "\"ghosts\"") =
        none :=
      (List.find?_cons_of_neg (by decide)).trans (List.find?_cons_of_neg (by decide))
    rw [missing]
  have counted : joined.expansionsOf .countAll = [.written "count(*)"] :=
    Query.expansionsOf_of_not_wildcard (Expr.not_isWildcard rfl rfl)
  have expanded :
      q.expansions = [.written "count(*)", .reported true posts, .written "count(*)"] := by
    rw [Query.expansions_select]
    simp only [List.flatMap_cons, List.flatMap_nil, counted, starOf, List.cons_append,
      List.nil_append]
  have brokenOff : broken.expansions =
      [.reported true posts] ++ .unknown "\"ghosts\"" :: joined.expansionsOf .star := by
    rw [Query.expansions_select]
    simp only [List.flatMap_cons, List.flatMap_nil, ghosts, starOf, List.cons_append,
      List.nil_append, List.append_nil]
  have reported : posts.namesFor true ["id", "title"] =
      ["\"posts\".\"id\"", "\"posts\".\"title\""] := by
    decide
  have all : AllGive c () q.expansions names () := by
    rw [expanded]
    rw [reported] at answered
    exact .cons .written (.cons answered (.cons .written .nil))
  have requested : Expansion.requests (.reported true posts) = asked := by
    rw [Expansion.requests, statement]
  obtain ⟨complete, -⟩ := resolution_follows_expansions c q ()
  obtain ⟨-, breaksOff, -⟩ := resolution_follows_expansions c broken ()
  obtain ⟨map, runs, positions⟩ := complete names () all
  simp only [expanded, List.flatMap_cons, List.flatMap_nil, requested, List.append_nil] at runs
  have fails := breaksOff _ _ _ _ () [] _ () brokenOff (.cons answered .nil) .unknown
  simp only [List.flatMap_cons, List.flatMap_nil, requested, List.append_nil] at fails
  refine ⟨all, ⟨map, runs, ?_, ?_⟩, fails⟩
  · refine (positions "count(*)" 3).2 ⟨rfl, fun later past => ?_⟩
    rw [List.getElem?_eq_none past]
    exact (Option.some_ne_none _).symm
  · refine (positions "\"posts\".\"title\"" 2).2 ⟨rfl, fun later past => ?_⟩
    match later, past with
    | 3, _ => decide
    | later + 4, _ => simp [names]

end TypedSql
