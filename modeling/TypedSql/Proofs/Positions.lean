import Mathlib.Data.List.Induction
import TypedSql.Row.Basic

namespace TypedSql

/-- The same names in increasing order. -/
def ascending (names : List String) : List String :=
  names.mergeSort fun a b => a ≤ b

theorem ascending_perm (names : List String) : (ascending names).Perm names :=
  List.mergeSort_perm names _

@[simp] theorem length_ascending (names : List String) : (ascending names).length = names.length :=
  (ascending_perm names).length_eq

@[simp] theorem ascending_nil : ascending [] = [] := by
  simp [ascending]

@[simp] theorem ascending_singleton (name : String) : ascending [name] = [name] := by
  simp [ascending]

/-- There is one way to put names in increasing order. -/
theorem eq_ascending {names listed : List String} (sorted : listed.Pairwise (· < ·))
    (same : listed.Perm names) : listed = ascending names := by
  have weakly : listed.Pairwise (· ≤ ·) := sorted.imp fun before => Std.le_of_lt before
  have mergeSorted : (ascending names).Pairwise (· ≤ ·) := by
    have pairwise : (ascending names).Pairwise fun a b => decide (a ≤ b) = true :=
      List.pairwise_mergeSort (fun a b c => by simpa using Std.le_trans)
        (fun a b => by simpa using Std.le_total) names
    simpa only [decide_eq_true_eq] using pairwise
  exact (same.trans (ascending_perm names).symm).eq_of_pairwise
    (fun _ _ _ _ => Std.le_antisymm) weakly mergeSorted

namespace ColumnMap

theorem names_increasing (map : ColumnMap) : map.names.Pairwise (· < ·) :=
  List.pairwise_map.2 map.sorted

theorem ofList_append (history more : List (String × Nat)) :
    ofList (history ++ more) =
      more.foldl (fun map entry => map.insert entry.1 entry.2) (ofList history) :=
  List.foldl_append

theorem ofList_concat (history : List (String × Nat)) (name : String) (index : Nat) :
    ofList (history ++ [(name, index)]) = (ofList history).insert name index :=
  ofList_append history [(name, index)]

theorem mem_names_ofList {history : List (String × Nat)} {name : String} :
    name ∈ (ofList history).names ↔ name ∈ history.map Prod.fst := by
  induction history using List.reverseRecOn with
  | nil => rfl
  | append_singleton history entry ih =>
    rw [ofList_concat, mem_names_insert, ih, List.map_append, List.mem_append, or_comm]
    simp

theorem ofNames_concat (names : List String) (name : String) :
    ofNames (names ++ [name]) = (ofNames names).insert name names.length := by
  simp [ofNames, List.zipIdx_append, ofList_concat]

/-- A name has the last position where it stands in the list. -/
theorem get?_ofNames_eq_some_iff {names : List String} {name : String} {index : Nat} :
    (ofNames names).get? name = some index ↔
      names[index]? = some name ∧ ∀ later > index, names[later]? ≠ some name := by
  induction names using List.reverseRecOn with
  | nil => simp [ofNames, ofList, empty, get?]
  | append_singleton names last ih =>
    rw [ofNames_concat, get?_insert]
    by_cases same : name = last
    · subst same
      have atEnd : (names ++ [name])[names.length]? = some name := by simp
      have beyond (i : Nat) (past : i > names.length) : (names ++ [name])[i]? = none := by
        simpa using Nat.succ_le_of_lt past
      rw [if_pos rfl, Option.some.injEq]
      constructor
      · rintro rfl
        exact ⟨atEnd, fun later past => by rw [beyond later past]; simp⟩
      · rintro ⟨found, isLast⟩
        rcases Nat.lt_trichotomy index names.length with before | equal | past
        · exact absurd atEnd (isLast names.length before)
        · exact equal.symm
        · rw [beyond index past] at found
          cases found
    · have shorter (i : Nat) : (names ++ [last])[i]? = some name ↔ names[i]? = some name := by
        rw [List.getElem?_append]
        split
        · rfl
        · grind
      simp only [if_neg same, ih, shorter, ne_eq]

theorem mem_names_iff_get? (map : ColumnMap) (name : String) :
    name ∈ map.names ↔ (map.get? name).isSome := by
  simp [names, get?]

theorem exists_get?_of_similar {map : ColumnMap} {text name : String}
    (only : map.similar text = [name]) :
    ∃ index, map.get? name = some index := by
  have member : name ∈ map.similar text := by
    rw [only]
    exact List.mem_singleton_self name
  have registered : name ∈ map.names := ((map.mem_similar text name).1 member).1
  exact Option.isSome_iff_exists.1 ((map.mem_names_iff_get? name).1 registered)

theorem mem_names_ofNames {names : List String} {name : String} :
    name ∈ (ofNames names).names ↔ name ∈ names := by
  rw [ofNames, mem_names_ofList, List.zipIdx_map_fst]

theorem get?_ofNames_eq_none_iff {names : List String} {name : String} :
    (ofNames names).get? name = none ↔ name ∉ names := by
  rw [← mem_names_ofNames, mem_names_iff_get?, Option.not_isSome_iff_eq_none]

/-- A name of the list is registered at its place there or, where it comes again, at a later
one. -/
theorem exists_get?_ofNames (before : List String) (name : String) (after : List String) :
    ∃ index, (ofNames (before ++ name :: after)).get? name = some index ∧ before.length ≤ index ∧
      (name ∉ after → index = before.length) := by
  have place : (before ++ name :: after)[before.length]? = some name := by simp
  have listed : (ofNames (before ++ name :: after)).get? name ≠ none := by
    rw [ne_eq, get?_ofNames_eq_none_iff]
    simp
  obtain ⟨index, registered⟩ := Option.ne_none_iff_exists'.1 listed
  obtain ⟨found, isLast⟩ := get?_ofNames_eq_some_iff.1 registered
  have notBefore : before.length ≤ index := by
    by_contra earlier
    exact isLast before.length (Nat.lt_of_not_le earlier) place
  refine ⟨index, registered, notBefore, fun once => ?_⟩
  by_contra different
  have past : before.length < index := Nat.lt_of_le_of_ne notBefore (Ne.symm different)
  obtain ⟨offset, rfl⟩ := Nat.exists_eq_add_of_lt past
  have again : after[offset]? = some name := by
    rw [List.getElem?_append_right notBefore] at found
    simpa [Nat.add_assoc, Nat.add_sub_cancel_left] using found
  exact once (List.mem_of_getElem? again)

theorem get?_ofNames_of_nodup {names : List String} (distinct : names.Nodup) {index : Nat}
    {name : String} (found : names[index]? = some name) :
    (ofNames names).get? name = some index := by
  refine get?_ofNames_eq_some_iff.2 ⟨found, fun later past again => ?_⟩
  have inBounds : index < names.length := (List.getElem?_eq_some_iff.1 found).1
  have equal : index = later :=
    (List.getElem?_inj inBounds distinct).1 (found.trans again.symm)
  exact absurd equal (Nat.ne_of_lt past)

theorem names_ofNames {names : List String} (distinct : names.Nodup) :
    (ofNames names).names = ascending names := by
  have sorted := (ofNames names).names_increasing
  have listedOnce : (ofNames names).names.Nodup := sorted.imp fun before => Std.ne_of_lt before
  refine eq_ascending sorted ((List.perm_ext_iff_of_nodup listedOnce distinct).2 fun name => ?_)
  exact mem_names_ofNames

theorem similar_ofNames {names : List String} (distinct : names.Nodup) (name : String) :
    (ofNames names).similar name =
      ascending
        (names.filter fun candidate => ('.' :: name.toList).isSuffixOf candidate.toList) := by
  have sorted := (ofNames names).names_increasing
  have listed : (ofNames names).names.Perm names :=
    names_ofNames distinct ▸ ascending_perm names
  exact eq_ascending (sorted.filter _) (listed.filter _)

end ColumnMap

namespace Row

section Index
variable {map : ColumnMap} {text : String}

theorem index?_of_get? {index : Nat} (found : map.get? text = some index) :
    index? map text = .ok index := by
  simp only [index?, found]

variable (absent : map.get? text = none)
include absent

/-- The one name that ends in a dot and the text is looked up in its place. -/
theorem index?_of_similar {name : String} {index : Nat} (only : map.similar text = [name])
    (found : map.get? name = some index) : index? map text = .ok index := by
  simp only [index?, absent, only, found]

theorem index?_of_unlike (nothing : map.similar text = []) :
    index? map text = .error (.noSuchColumn text map.names) := by
  simp only [index?, absent, nothing]

theorem index?_of_ambiguous (several : 2 ≤ (map.similar text).length) :
    index? map text = .error (.ambiguousColumn text (map.similar text)) := by
  match similar : map.similar text with
  | [] | [_] => simp [similar] at several
  | first :: second :: rest => simp only [index?, absent, similar]

/-- A name that is not registered is found as the one similar name, or not at all. -/
theorem index?_eq_ok_iff {index : Nat} : index? map text = .ok index ↔
    ∃ name, map.similar text = [name] ∧ map.get? name = some index := by
  constructor
  · intro position
    match similar : map.similar text with
    | [] =>
      rw [index?_of_unlike absent similar] at position
      cases position
    | [name] =>
      obtain ⟨registered, found⟩ := ColumnMap.exists_get?_of_similar similar
      rw [index?_of_similar absent similar found] at position
      cases position
      exact ⟨name, rfl, found⟩
    | first :: second :: rest =>
      rw [index?_of_ambiguous absent (by simp [similar])] at position
      cases position
  · rintro ⟨name, only, found⟩
    exact index?_of_similar absent only found

end Index

theorem getOptional_of_get? {map : ColumnMap} {x : Term t} {index : Nat}
    (found : map.get? x.template = some index) (values : List Value) :
    (Row.mk map values).getOptional x = .ok (values[index]?.bind t.base.decode) := by
  simp only [getOptional, index?_of_get? found]
  rfl

section Fallback
variable {map : ColumnMap} {x : Term t} (absent : map.get? x.template = none) (values : List Value)
include absent

theorem getOptional_of_similar {y : Term t} {index : Nat}
    (only : map.similar x.template = [y.template]) (found : map.get? y.template = some index) :
    (Row.mk map values).getOptional x = (Row.mk map values).getOptional y := by
  simp only [getOptional, index?_of_similar absent only found, index?_of_get? found]

theorem getOptional_of_unlike (nothing : map.similar x.template = []) :
    (Row.mk map values).getOptional x = .error (.noSuchColumn x.template map.names) := by
  simp only [getOptional, index?_of_unlike absent nothing]
  rfl

theorem getOptional_of_ambiguous (several : 2 ≤ (map.similar x.template).length) :
    (Row.mk map values).getOptional x =
      .error (.ambiguousColumn x.template (map.similar x.template)) := by
  simp only [getOptional, index?_of_ambiguous absent several]
  rfl

end Fallback

end Row

end TypedSql
