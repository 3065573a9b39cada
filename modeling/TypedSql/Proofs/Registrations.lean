import Mathlib.Data.List.Dedup
import TypedSql.Proofs.ByteOrder
import TypedSql.Proofs.Positions

/-! Column maps after any registrations. Of each name the last registration counts, and nothing
else of the history can be seen: not in the map, and not in the lists that failing reads
give. Nor can the order in which a hash table happens to keep its entries, since every list
of names is put in order before it is handed out. -/
namespace TypedSql

section Entries
variable {entries others : List (String × Nat)} {name : String}

theorem lookup_eq_some_iff_mem (distinct : (entries.map Prod.fst).Nodup) {index : Nat} :
    entries.lookup name = some index ↔ (name, index) ∈ entries := by
  induction entries with
  | nil => simp
  | cons entry rest ih =>
    obtain ⟨first, place⟩ := entry
    obtain ⟨fresh, restDistinct⟩ := List.nodup_cons.1 distinct
    by_cases same : name = first
    · subst same
      have noOther : (name, index) ∉ rest := fun member => fresh (List.mem_map.2 ⟨_, member, rfl⟩)
      simp [noOther, eq_comm]
    · rw [List.lookup_cons, beq_false_of_ne same, List.mem_cons, ih restDistinct]
      simp [same]

/-- Entries of different names are told apart, up to their order, by what is found for each
name. -/
theorem perm_iff_lookup_eq (distinct : (entries.map Prod.fst).Nodup)
    (othersDistinct : (others.map Prod.fst).Nodup) :
    entries.Perm others ↔ ∀ name, entries.lookup name = others.lookup name := by
  rw [List.perm_ext_iff_of_nodup (.of_map _ distinct) (.of_map _ othersDistinct)]
  constructor
  · intro members name
    refine Option.ext fun index => ?_
    rw [lookup_eq_some_iff_mem distinct, lookup_eq_some_iff_mem othersDistinct]
    exact members (name, index)
  · rintro found ⟨name, index⟩
    rw [← lookup_eq_some_iff_mem distinct, ← lookup_eq_some_iff_mem othersDistinct, found]

end Entries

/-- The position that was registered last for a name. -/
def lastRegistered (history : List (String × Nat)) (name : String) : Option Nat :=
  history.reverse.lookup name

theorem lastRegistered_concat (history : List (String × Nat)) (name other : String) (index : Nat) :
    lastRegistered (history ++ [(name, index)]) other =
      if other = name then some index else lastRegistered history other := by
  rw [lastRegistered, List.reverse_concat, List.lookup_cons]
  by_cases same : other = name
  · simp [same]
  · rw [beq_false_of_ne same, if_neg same]
    rfl

/-- The last registration of a name is the one with no other of the name behind it. -/
theorem lastRegistered_eq_some_iff {history : List (String × Nat)} {name : String} {index : Nat} :
    lastRegistered history name = some index ↔
      ∃ before after, history = before ++ (name, index) :: after ∧ name ∉ after.map Prod.fst := by
  rw [lastRegistered, List.lookup_eq_some_iff]
  constructor
  · rintro ⟨after, before, shape, others⟩
    refine ⟨before.reverse, after.reverse, ?_, ?_⟩
    · rw [← List.reverse_reverse history, shape]
      simp
    · intro again
      obtain ⟨entry, member, rfl⟩ := List.mem_map.1 again
      have differs := others entry (List.mem_reverse.1 member)
      simp at differs
  · rintro ⟨before, after, rfl, once⟩
    refine ⟨after.reverse, before.reverse, by simp, fun entry member => ?_⟩
    rw [bne_iff_ne]
    rintro rfl
    exact once (List.mem_map_of_mem (List.mem_reverse.1 member))

namespace ColumnMap

theorem nodup_names (map : ColumnMap) : map.names.Nodup :=
  map.names_increasing.imp fun before => Std.ne_of_lt before

theorem eq_of_get? {map other : ColumnMap} (same : ∀ name, map.get? name = other.get? name) :
    map = other := by
  have listed : map.entries.Perm other.entries :=
    (perm_iff_lookup_eq map.nodup_names other.nodup_names).2 same
  have entries : map.entries = other.entries :=
    listed.eq_of_pairwise (fun _ _ _ _ before after => absurd after (String.lt_asymm before))
      map.sorted other.sorted
  cases map
  cases other
  cases entries
  rfl

theorem get?_ofList (history : List (String × Nat)) (name : String) :
    (ofList history).get? name = lastRegistered history name := by
  induction history using List.reverseRecOn with
  | nil => rfl
  | append_singleton history entry ih =>
    rw [ofList_concat, get?_insert, ih, lastRegistered_concat]

theorem size_ofList (history : List (String × Nat)) :
    (ofList history).size = (history.map Prod.fst).dedup.length := by
  have listed : (ofList history).names.Perm (history.map Prod.fst).dedup :=
    (List.perm_ext_iff_of_nodup (nodup_names _) (List.nodup_dedup _)).2 fun name => by
      rw [mem_names_ofList, List.mem_dedup]
  rw [← listed.length_eq, names, List.length_map, size]

theorem ofList_eq_ofList_iff {history other : List (String × Nat)} :
    ofList other = ofList history ↔ ∀ name,
      lastRegistered other name = lastRegistered history name := by
  constructor
  · intro same name
    rw [← get?_ofList, ← get?_ofList, same]
  · intro same
    refine eq_of_get? fun name => ?_
    rw [get?_ofList, get?_ofList, same]

end ColumnMap

/-- Columns with their positions, one of each name, in the order in which a hash table keeps
them. -/
structure ColumnTable where
  entries : List (String × Nat)
  distinct : (entries.map Prod.fst).Nodup

namespace ColumnTable

/-- The table after one more registration: the entry of the name, if it has one, is gone, the
new one stands somewhere, and the others may have moved. -/
def Registers (table : ColumnTable) (name : String) (index : Nat) (next : ColumnTable) : Prop :=
  next.entries.Perm ((name, index) :: table.entries.filter fun entry => entry.1 ≠ name)

/-- The tables that registrations one after the other can lead to. -/
inductive HoldsAfter : List (String × Nat) → ColumnTable → Prop where
  | nothing : HoldsAfter [] ⟨[], List.nodup_nil⟩
  | register (earlier : HoldsAfter history table) (registers : table.Registers name index next) :
      HoldsAfter (history ++ [(name, index)]) next

def get? (table : ColumnTable) (name : String) : Option Nat :=
  table.entries.lookup name

/-- The names as they come, put in order. -/
def names (table : ColumnTable) : List String :=
  ascending (table.entries.map Prod.fst)

/-- Those names that end in a dot and the given one, as they come, put in order. -/
def similar (table : ColumnTable) (name : String) : List String :=
  ascending ((table.entries.map Prod.fst).filter fun candidate =>
    ('.' :: name.toList).isSuffixOf candidate.toList)

/-- The position that a column's text stands for. -/
def index? (table : ColumnTable) (name : String) : Except QueryError Nat :=
  match table.get? name with
  | some index => .ok index
  | none =>
    match table.similar name with
    | [] => .error (.noSuchColumn name table.names)
    | [candidate] =>
      match table.get? candidate with
      | some index => .ok index
      | none => .error (.noSuchColumn name table.names)
    | similar => .error (.ambiguousColumn name similar)

/-- The value of a column in a row if it holds one of the column's type. -/
def getOptional (table : ColumnTable) (values : List Value) (column : Term t) :
    Except QueryError (Option t.base.Host) :=
  (table.index? column.template).map fun index => values[index]?.bind t.base.decode

/-- The value of a column in a row, an error if it holds none that fits. -/
def get (table : ColumnTable) (values : List Value) (column : Term t) : Except QueryError t.Host :=
  (table.getOptional values column).bind (t.ofOption column.template)

/-- Whether a column of just this name holds a value other than NULL. -/
def hasValue (table : ColumnTable) (values : List Value) (name : String) : Bool :=
  ((table.get? (Text.quote name)).bind fun index => values[index]?).any fun value => !value.isNull

section Reading
variable {table : ColumnTable} {map : ColumnMap} (holds : table.entries.Perm map.entries)
include holds

theorem get?_of_perm (name : String) : table.get? name = map.get? name :=
  (perm_iff_lookup_eq table.distinct map.nodup_names).1 holds name

theorem names_of_perm : table.names = map.names :=
  (eq_ascending map.names_increasing (holds.map Prod.fst).symm).symm

theorem similar_of_perm (name : String) : table.similar name = map.similar name :=
  (eq_ascending (map.names_increasing.filter _) ((holds.map Prod.fst).filter _).symm).symm

theorem index?_of_perm (name : String) : table.index? name = Row.index? map name := by
  simp only [index?, get?_of_perm holds, names_of_perm holds, similar_of_perm holds]
  rfl

theorem getOptional_of_perm (values : List Value) (x : Term t) :
    table.getOptional values x = (Row.mk map values).getOptional x := by
  rw [getOptional, index?_of_perm holds, Row.getOptional]
  cases Row.index? map x.template with
  | error e => rfl
  | ok index => rfl

theorem get_of_perm (values : List Value) (x : Term t) :
    table.get values x = (Row.mk map values).get x := by
  rw [get, getOptional_of_perm holds]
  rfl

theorem hasValue_of_perm (values : List Value) (name : String) :
    table.hasValue values name = (Row.mk map values).hasValue name := by
  rw [hasValue, get?_of_perm holds, Row.hasValue]
  cases (map.get? (Text.quote name)).bind fun index => values[index]? with
  | none => rfl
  | some value => rfl

end Reading

theorem entries_insert_perm (map : ColumnMap) (name : String) (index : Nat) :
    (map.insert name index).entries.Perm
      ((name, index) :: map.entries.filter fun entry => entry.1 ≠ name) := by
  have listedOnce : ((name, index) :: map.entries.filter fun entry => entry.1 ≠ name).Nodup :=
    List.nodup_cons.2 ⟨by simp, (List.Nodup.of_map _ map.nodup_names).filter _⟩
  refine (List.perm_ext_iff_of_nodup
    (.of_map _ (map.insert name index).nodup_names) listedOnce).2 ?_
  rintro ⟨other, place⟩
  have found : (other, place) ∈ (map.insert name index).entries ↔
      (map.insert name index).get? other = some place :=
    (lookup_eq_some_iff_mem (map.insert name index).nodup_names).symm
  have foundBefore : (other, place) ∈ map.entries ↔ map.get? other = some place :=
    (lookup_eq_some_iff_mem map.nodup_names).symm
  rw [found, ColumnMap.get?_insert, List.mem_cons, List.mem_filter, foundBefore]
  by_cases same : other = name
  · simp [same, eq_comm]
  · simp [same]

/-- The tables that registrations can lead to are the map of these in every order. -/
theorem holdsAfter_iff {history : List (String × Nat)} {table : ColumnTable} :
    HoldsAfter history table ↔ table.entries.Perm (ColumnMap.ofList history).entries := by
  constructor
  · intro holds
    induction holds with
    | nothing => exact .nil
    | @register history table name index next earlier registers ih =>
      rw [ColumnMap.ofList_concat]
      exact registers.trans (((ih.filter _).cons _).trans (entries_insert_perm _ _ _).symm)
  · intro arranged
    induction history using List.reverseRecOn generalizing table with
    | nil =>
      obtain ⟨entries, distinct⟩ := table
      obtain rfl : entries = [] := List.perm_nil.1 arranged
      exact .nothing
    | append_singleton history entry ih =>
      rw [ColumnMap.ofList_concat] at arranged
      have earlier : HoldsAfter history ⟨_, (ColumnMap.ofList history).nodup_names⟩ := ih (.refl _)
      exact .register earlier (arranged.trans (entries_insert_perm _ _ _))

end ColumnTable

/-- After any registrations a map finds each name at the last one of it, and its lists of names
are increasing by their bytes. Two histories give one map exactly if they agree on the last
registration of every name. The hash tables that such a history can lead to are then the
entries of this map in every order; they find the same, and rows that read by them give the
same values and the same errors with the same lists. -/
theorem last_registrations_decide (history : List (String × Nat)) :
    let map := ColumnMap.ofList history
    (∀ more : List (String × Nat),
      more.foldl (fun map entry => map.insert entry.1 entry.2) map = .ofList (history ++ more)) ∧
    (∀ name index, map.get? name = some index ↔
      ∃ before after, history = before ++ (name, index) :: after ∧ name ∉ after.map Prod.fst) ∧
    map.size = (history.map Prod.fst).dedup.length ∧
    ((map.names.Pairwise fun a b => Text.bytes a < Text.bytes b) ∧
      ∀ name, name ∈ map.names ↔ name ∈ history.map Prod.fst) ∧
    (∀ name, ((map.similar name).Pairwise fun a b => Text.bytes a < Text.bytes b) ∧
      ∀ candidate, candidate ∈ map.similar name ↔
        candidate ∈ history.map Prod.fst ∧ ('.' :: name.toList) <:+ candidate.toList) ∧
    ∀ other : List (String × Nat),
      (.ofList other = map ↔ ∀ name, lastRegistered other name = lastRegistered history name) ∧
      ((∀ name, lastRegistered other name = lastRegistered history name) → ∀ table : ColumnTable,
        (table.HoldsAfter other ↔ table.entries.Perm map.entries) ∧
        (table.HoldsAfter other →
          (table.entries.length = map.size ∧ table.names = map.names ∧
            ∀ name, table.get? name = map.get? name ∧ table.similar name = map.similar name) ∧
          ∀ (values : List Value) (name : String) (t : SqlType) (x : Term t),
            (Row.mk map values).getOptional x = table.getOptional values x ∧
            (Row.mk map values).get x = table.get values x ∧
            (Row.mk map values).hasValue name = table.hasValue values name)) := by
  intro map
  have increasing : map.names.Pairwise fun a b => Text.bytes a < Text.bytes b :=
    map.names_increasing.imp fun before => (Text.bytes_lt_iff _ _).2 before
  refine ⟨fun more => (ColumnMap.ofList_append history more).symm, ?_,
    ColumnMap.size_ofList history, ⟨increasing, fun name => ColumnMap.mem_names_ofList⟩, ?_, ?_⟩
  · intro name index
    rw [ColumnMap.get?_ofList, lastRegistered_eq_some_iff]
  · intro name
    refine ⟨increasing.filter _, fun candidate => ?_⟩
    rw [ColumnMap.mem_similar, ColumnMap.mem_names_ofList]
  · intro other
    refine ⟨ColumnMap.ofList_eq_ofList_iff, fun same table => ?_⟩
    have reached : table.HoldsAfter other ↔ table.entries.Perm map.entries := by
      rw [ColumnTable.holdsAfter_iff, ColumnMap.ofList_eq_ofList_iff.2 same]
    refine ⟨reached, fun after => ?_⟩
    have holds := reached.1 after
    refine ⟨⟨holds.length_eq, ColumnTable.names_of_perm holds, fun name =>
      ⟨ColumnTable.get?_of_perm holds name, ColumnTable.similar_of_perm holds name⟩⟩, ?_⟩
    intro values name t x
    exact ⟨(ColumnTable.getOptional_of_perm holds values x).symm,
      (ColumnTable.get_of_perm holds values x).symm,
      (ColumnTable.hasValue_of_perm holds values name).symm⟩

/-- A name registered twice, and a table that has the later name first. -/
theorem last_registrations_decide_twice :
    let history := [("\"u\".\"id\"", 5), ("\"t\".\"id\"", 1), ("\"u\".\"id\"", 0)]
    let other := [("\"u\".\"id\"", 0), ("\"t\".\"id\"", 1)]
    let table : ColumnTable := ⟨other, by decide⟩
    let id : Term (.required .int64) := .column _ "id"
    (∀ name, lastRegistered other name = lastRegistered history name) ∧ table.HoldsAfter other ∧
      ColumnMap.ofList other = .ofList history ∧
      table.getOptional [.int 7, .int 8] id =
        .error (.ambiguousColumn "\"id\"" ["\"t\".\"id\"", "\"u\".\"id\""]) := by
  intro history other table id
  have same : ∀ name, lastRegistered other name = lastRegistered history name := by
    intro name
    by_cases first : name = "\"u\".\"id\""
    · subst first
      rfl
    · simp [lastRegistered, other, history, List.lookup_cons, beq_false_of_ne first]
  obtain ⟨-, -, -, -, -, others⟩ := last_registrations_decide history
  obtain ⟨equal, tables⟩ := others other
  obtain ⟨reached, reads⟩ := tables same table
  have arranged : table.entries.Perm (ColumnMap.ofList history).entries := .swap _ _ _
  have holds := reached.2 arranged
  obtain ⟨-, read⟩ := reads holds
  refine ⟨same, holds, equal.2 same, ?_⟩
  have absent : (ColumnMap.ofList history).get? id.template = none := by decide
  have similar : (ColumnMap.ofList history).similar id.template =
      ["\"t\".\"id\"", "\"u\".\"id\""] := by decide
  have ambiguous := Row.getOptional_of_ambiguous absent [.int 7, .int 8] (by rw [similar]; decide)
  rw [similar, (read [.int 7, .int 8] "id" _ id).1] at ambiguous
  exact ambiguous

end TypedSql
