/-! Column names with the position of each in a row. The entries are kept in the order
of their names, one per name, so two maps are equal exactly when they hold the
same positions. -/
namespace TypedSql

/-- The entries have increasing names. -/
abbrev ColumnsSorted (entries : List (String × Nat)) : Prop :=
  entries.Pairwise fun a b => a.1 < b.1

/-- Puts an entry in its place, instead of any entry of the same name. -/
def insertColumn (name : String) (index : Nat) : List (String × Nat) → List (String × Nat)
  | [] => [(name, index)]
  | entry :: rest =>
    if name < entry.1 then (name, index) :: entry :: rest
    else if name = entry.1 then (name, index) :: rest
    else entry :: insertColumn name index rest

private theorem mem_insertColumn {name : String} {index : Nat} {entries : List (String × Nat)}
    {entry : String × Nat} (member : entry ∈ insertColumn name index entries) :
    entry = (name, index) ∨ entry ∈ entries := by
  fun_induction insertColumn name index entries <;> grind

theorem columnsSorted_insertColumn (name : String) (index : Nat) {entries : List (String × Nat)}
    (sorted : ColumnsSorted entries) : ColumnsSorted (insertColumn name index entries) := by
  fun_induction insertColumn name index entries with
  | case1 => simp
  | case2 entry rest before =>
    simp only [ColumnsSorted, List.pairwise_cons] at sorted ⊢
    refine ⟨fun other member => ?_, sorted⟩
    rcases List.mem_cons.1 member with rfl | later
    · exact before
    · exact String.lt_trans before (sorted.1 other later)
  | case3 entry rest _ same =>
    subst same
    simpa only [ColumnsSorted, List.pairwise_cons] using sorted
  | case4 entry rest notBefore different ih =>
    simp only [ColumnsSorted, List.pairwise_cons] at sorted ⊢
    refine ⟨fun other member => ?_, ih sorted.2⟩
    rcases mem_insertColumn member with rfl | later
    · exact Std.lt_of_le_of_ne (String.not_lt.1 notBefore) (Ne.symm different)
    · exact sorted.1 other later

theorem lookup_insertColumn (name other : String) (index : Nat) (entries : List (String × Nat)) :
    (insertColumn name index entries).lookup other =
      if other = name then some index else entries.lookup other := by
  fun_induction insertColumn name index entries <;> by_cases same : other = name <;> grind

theorem mem_names_insertColumn {name other : String} {index : Nat} {entries : List (String × Nat)} :
    other ∈ (insertColumn name index entries).map Prod.fst ↔
      other = name ∨ other ∈ entries.map Prod.fst := by
  fun_induction insertColumn name index entries <;> grind

/-- Which position each column name has. -/
structure ColumnMap where
  entries : List (String × Nat) := []
  sorted : ColumnsSorted entries := by exact List.Pairwise.nil
  deriving DecidableEq

namespace ColumnMap

def empty : ColumnMap := {}

/-- Registers a name; a later registration of the name replaces it. -/
def insert (map : ColumnMap) (name : String) (index : Nat) : ColumnMap :=
  ⟨insertColumn name index map.entries, columnsSorted_insertColumn name index map.sorted⟩

/-- Registers the names one after the other. -/
def ofList (pairs : List (String × Nat)) : ColumnMap :=
  pairs.foldl (fun map (name, index) => map.insert name index) empty

/-- Registers each name at its position in the list. -/
def ofNames (names : List String) : ColumnMap :=
  ofList names.zipIdx

/-- The position of a name, found by the name as a whole. -/
def get? (map : ColumnMap) (name : String) : Option Nat :=
  map.entries.lookup name

/-- The names in increasing order. -/
def names (map : ColumnMap) : List String :=
  map.entries.map Prod.fst

/-- The names that end in a dot and the given name, in increasing order. -/
def similar (map : ColumnMap) (name : String) : List String :=
  map.names.filter fun candidate => ('.' :: name.toList).isSuffixOf candidate.toList

def size (map : ColumnMap) : Nat :=
  map.entries.length

def isEmpty (map : ColumnMap) : Bool :=
  map.entries.isEmpty

/-- The entries in the order of their positions. -/
def byIndex (map : ColumnMap) : List (String × Nat) :=
  map.entries.mergeSort fun a b => a.2 ≤ b.2

theorem get?_insert (map : ColumnMap) (name other : String) (index : Nat) :
    (map.insert name index).get? other = if other = name then some index else map.get? other :=
  lookup_insertColumn name other index map.entries

theorem mem_names_insert (map : ColumnMap) (name other : String) (index : Nat) :
    other ∈ (map.insert name index).names ↔ other = name ∨ other ∈ map.names :=
  mem_names_insertColumn

theorem mem_similar (map : ColumnMap) (name candidate : String) :
    candidate ∈ map.similar name ↔
      candidate ∈ map.names ∧ ('.' :: name.toList) <:+ candidate.toList := by
  simp [similar]

end ColumnMap

end TypedSql
