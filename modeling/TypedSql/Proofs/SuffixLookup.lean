import TypedSql.Proofs.DottedNames
import TypedSql.Proofs.Positions

namespace TypedSql

namespace ColumnMap

section Paths
variable {map : ColumnMap} {paths : List (List String)} {wanted : List String}
  (named : map.names = paths.map Text.dotted) (nonempty : ∀ path ∈ paths, path ≠ [])
  (asked : wanted ≠ [])
include named nonempty asked

/-- The similar names are those of the paths that end in the wanted one. -/
theorem similar_eq_map : map.similar (Text.dotted wanted) =
    (paths.filter fun path => Text.Ends wanted path).map Text.dotted := by
  rw [similar, named, List.filter_map]
  refine congrArg (List.map Text.dotted) (List.filter_congr fun path member => ?_)
  rw [Bool.eq_iff_iff, decide_eq_true_iff, Function.comp_apply, List.isSuffixOf_iff_suffix]
  exact Text.dotted_suffix_iff asked (nonempty path member)

theorem get?_dotted_eq_none (unregistered : wanted ∉ paths) :
    map.get? (Text.dotted wanted) = none := by
  rw [← Option.not_isSome_iff_eq_none, ← mem_names_iff_get?, named]
  intro member
  obtain ⟨path, inPaths, same⟩ := List.mem_map.1 member
  rw [Text.dotted_inj (nonempty path inPaths) asked] at same
  subst same
  exact unregistered inPaths

end Paths

end ColumnMap

/-- In a map whose names are paths, the names similar to a wanted path are in order those of
the longer paths that end in it. A wanted path that is not registered is looked up as the
one of these if there is one, which then has an index; several are ambiguous, and none is
no column. -/
theorem suffix_lookup_follows_paths (map : ColumnMap) (paths : List (List String))
    (wanted : List String)
    (named : map.names = paths.map Text.dotted) (nonempty : ∀ path ∈ paths, path ≠ [])
    (asked : wanted ≠ []) :
    let text := Text.dotted wanted
    let longer := paths.filter fun path => Text.Ends wanted path
    (map.similar text = longer.map Text.dotted ∧ (longer.map Text.dotted).Pairwise (· < ·) ∧
      map.names.Pairwise (· < ·)) ∧
    (wanted ∉ paths →
      (∀ path, longer = [path] →
        ∃ index, map.get? (Text.dotted path) = some index ∧ Row.index? map text = .ok index) ∧
      (2 ≤ longer.length →
      Row.index? map text = .error (.ambiguousColumn text (longer.map Text.dotted))) ∧
      (longer = [] → Row.index? map text = .error (.noSuchColumn text map.names))) := by
  intro text longer
  have similar : map.similar text = longer.map Text.dotted :=
    ColumnMap.similar_eq_map named nonempty asked
  refine ⟨⟨similar, ?_, map.names_increasing⟩, fun unregistered => ?_⟩
  · rw [← similar]
    exact map.names_increasing.filter _
  · have absent : map.get? text = none :=
      ColumnMap.get?_dotted_eq_none named nonempty asked unregistered
    refine ⟨fun path only => ?_, fun several => ?_, fun nothing => ?_⟩
    · rw [only, List.map_singleton] at similar
      obtain ⟨index, found⟩ := ColumnMap.exists_get?_of_similar similar
      exact ⟨index, found, Row.index?_of_similar absent similar found⟩
    · rw [← similar]
      refine Row.index?_of_ambiguous absent ?_
      rw [similar, List.length_map]
      exact several
    · refine Row.index?_of_unlike absent ?_
      rw [similar, nothing, List.map_nil]

/-- Two columns `id`, one of them under a label with a dot, and a column with a dot and a
quote before its last letters. -/
theorem suffix_lookup_follows_paths_marked_names :
    let paths := [["a.b", "id"], ["t", "x.\"id"], ["u", "id"]]
    let map := ColumnMap.ofNames (paths.map Text.dotted)
    (map.names = paths.map Text.dotted ∧ ∀ path ∈ paths, path ≠ []) ∧
      Row.index? map "\"id\"" =
      .error (.ambiguousColumn "\"id\"" ["\"a.b\".\"id\"", "\"u\".\"id\""]) ∧
      Row.index? map "\"x.\"\"id\"" = .ok 1 ∧
      Row.index? map "\"b\".\"id\"" = .error (.noSuchColumn "\"b\".\"id\"" map.names) := by
  intro paths map
  have named : map.names = paths.map Text.dotted := by decide
  have nonempty : ∀ path ∈ paths, path ≠ [] := by decide
  have lookup (wanted : List String) (asked : wanted ≠ []) :=
    suffix_lookup_follows_paths map paths wanted named nonempty asked
  refine ⟨⟨named, nonempty⟩, ?_, ?_, ?_⟩
  · obtain ⟨-, ambiguous, -⟩ := (lookup ["id"] (by decide)).2 (by decide)
    exact ambiguous (by decide)
  · obtain ⟨single, -⟩ := (lookup ["x.\"id"] (by decide)).2 (by decide)
    obtain ⟨index, found, position⟩ := single ["t", "x.\"id"] (by decide)
    obtain rfl : 1 = index := Option.some.inj found
    exact position
  · obtain ⟨-, -, missing⟩ := (lookup ["b", "id"] (by decide)).2 (by decide)
    exact missing (by decide)

end TypedSql
