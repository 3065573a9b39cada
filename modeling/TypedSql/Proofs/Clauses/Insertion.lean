import TypedSql.Proofs.Clauses.Sections

namespace TypedSql

namespace Clauses

namespace Lexeme

/-- A name between double quotes. -/
def name? : Lexeme → Option String
  | quoted mark text => if mark = '"' then some (String.ofList text) else none
  | _ => none

/-- A bound value, or the word NULL. -/
def value? : Lexeme → Option Value
  | bound value => some value
  | l => if l.isWord "NULL" then some .null else none

/-- The lexeme of a quoted name. -/
def ofName (name : String) : Lexeme :=
  .quoted '"' name.toList

@[simp] theorem name?_ofName (name : String) : (ofName name).name? = some name := by
  simp [name?, ofName]

end Lexeme

/-- Reads the names of a table, with dots between them. -/
def readPath : List Lexeme → Option (List String × List Lexeme)
  | l :: rest => do
    let name ← l.name?
    match rest with
    | .symbol '.' :: more =>
      let (names, behind) ← readPath more
      return (name :: names, behind)
    | behind => return ([name], behind)
  | [] => none

/-- Reads items with commas between them, up to the closing parenthesis. -/
def readItems (item : Lexeme → Option α) : List Lexeme → Option (List α × List Lexeme)
  | l :: .symbol ')' :: rest => (item l).map fun a => ([a], rest)
  | l :: .symbol ',' :: rest => do
    let a ← item l
    let (others, behind) ← readItems item rest
    return (a :: others, behind)
  | _ => none

/-- The row that a statement inserts: the i-th value is for the i-th column. -/
structure Insertion where
  table : List String
  columns : List String
  values : List Value
  deriving DecidableEq

/-- `INSERT INTO table (columns) VALUES (values)`. -/
def Insertion.read : List Lexeme → Option Insertion
  | first :: second :: rest => do
    guard (first.isWord "INSERT" && second.isWord "INTO")
    let (table, rest) ← readPath rest
    match rest with
    | .symbol '(' :: rest =>
      let (columns, rest) ← readItems Lexeme.name? rest
      match rest with
      | word :: .symbol '(' :: rest =>
        guard (word.isWord "VALUES")
        let (values, rest) ← readItems Lexeme.value? rest
        guard rest.isEmpty
        return { table, columns, values }
      | _ => none
    | _ => none
  | _ => none

/-- The table of a statement `SELECT * FROM table`. -/
def wholeTable? : List Lexeme → Option (List String)
  | first :: .symbol '*' :: second :: rest => do
    guard (first.isWord "SELECT" && second.isWord "FROM")
    let (table, rest) ← readPath rest
    guard rest.isEmpty
    return table
  | _ => none

theorem readPath_intercalate {names : List String} (nonempty : names ≠ []) {rest : List Lexeme}
    (ends : rest.head? ≠ some (.symbol '.')) :
    readPath ([Lexeme.symbol '.'].intercalate (names.map fun name => [.ofName name]) ++ rest) =
      some (names, rest) := by
  induction names with
  | nil => contradiction
  | cons name others ih =>
    cases others with
    | nil =>
      cases rest with
      | nil => simp [readPath]
      | cons l rest =>
        simp only [List.map_cons, List.map_nil, List.intercalate_singleton, List.cons_append,
          List.nil_append, readPath, Lexeme.name?_ofName, Option.bind_eq_bind, Option.bind_some]
        split
        · rename_i same
          obtain rfl := (List.cons.inj same).1
          exact absurd rfl ends
        · rfl
    | cons next others =>
      have behind := ih (by simp)
      simp only [List.map_cons, List.intercalate_cons_cons, List.cons_append,
        List.nil_append, readPath, Lexeme.name?_ofName, Option.bind_eq_bind, Option.bind_some]
        at behind ⊢
      rw [behind]
      rfl

theorem readItems_intercalate {item : Lexeme → Option α} {lexeme : β → Lexeme} {read : β → α}
    {items : List β}
    (each : ∀ b ∈ items, item (lexeme b) = some (read b)) (nonempty : items ≠ [])
    (rest : List Lexeme) :
    readItems item
      ([Lexeme.symbol ','].intercalate (items.map fun b => [lexeme b]) ++ .symbol ')' :: rest) =
      some (items.map read, rest) := by
  induction items with
  | nil => contradiction
  | cons b others ih =>
    obtain ⟨first, behind⟩ := List.forall_mem_cons.1 each
    cases others with
    | nil => simp [readItems, first]
    | cons next others =>
      have rests := ih behind (by simp)
      simp only [List.map_cons, List.intercalate_cons_cons, List.cons_append, List.nil_append,
        readItems, first, Option.bind_eq_bind, Option.bind_some] at rests ⊢
      rw [rests]
      rfl

end Clauses

/-- The value that an expression is, if it is a bound value or the word NULL. -/
def Expr.constant? : Expr → Option Value
  | bound value => some value
  | null => some .null
  | _ => none

open Clauses
open Fragment (ofText)
open Query (keyword)

/-- What a constant is written as. -/
def Expr.constantLexeme : Expr → Lexeme
  | bound value => .bound value
  | _ => .word "NULL".toList

theorem Expr.lexemes_constant {e : Expr} {value : Value} (constant : e.constant? = some value) :
    e.fragment.Balanced ∧ e.fragment.lexemes = [e.constantLexeme] ∧
    e.constantLexeme.value? = some value := by
  cases e with
  | bound bound =>
    obtain rfl := Option.some.inj constant
    exact ⟨Fragment.balanced_bound bound, Fragment.lexemes_bound bound, rfl⟩
  | null =>
    obtain rfl := Option.some.inj constant
    have balanced : (ofText "NULL").Balanced := by decide
    exact ⟨balanced, by decide, by decide⟩
  | _ => cases constant

namespace Clauses

theorem balanced_qualifiedName (t : TableRef) : t.qualifiedName.Balanced :=
  (Fragment.Contained.qualifiedName t).toBalanced

theorem lexemes_qualifiedName (t : TableRef) :
    t.qualifiedName.lexemes =
      [Lexeme.symbol '.'].intercalate (t.qualifiers.map fun name => [.ofName name]) := by
  have dot : (ofText ".").lexemes = [.symbol '.'] := by decide
  have each : ∀ part ∈ t.qualifiers.map Fragment.identifier, part.Balanced :=
    List.forall_mem_map.2 fun name _ => Fragment.balanced_quote name
  rw [t.qualifiedName_eq_join, Fragment.lexemes_join (by decide) each, dot, List.map_map]
  simp only [Function.comp_def, Fragment.lexemes_identifier]
  rfl

theorem lexemes_wrap_list {items : List ι} (e : ι → Expr) (lexeme : ι → Lexeme)
    (each : ∀ i ∈ items, (e i).fragment.Balanced ∧ (e i).fragment.lexemes = [lexeme i]) :
    (Fragment.wrap "" (Expr.list (items.map e))).Balanced ∧
      (Fragment.wrap "" (Expr.list (items.map e))).lexemes =
        .symbol '(' ::
          ([Lexeme.symbol ','].intercalate (items.map fun i => [lexeme i]) ++ [.symbol ')']) := by
  have comma : (ofText ", ").lexemes = [.symbol ','] := by decide
  have balanced : ∀ part ∈ (items.map e).map Expr.fragment, part.Balanced :=
    List.forall_mem_map.2 (List.forall_mem_map.2 fun i member => (each i member).1)
  have list : (Expr.list (items.map e)).Balanced := .join (by decide) balanced
  have nothing : (ofText "").Balanced ∧ (ofText "").lexemes = [] := by decide
  have same : ((items.map e).map Expr.fragment).map Fragment.lexemes =
      items.map fun i => [lexeme i] := by
    rw [List.map_map, List.map_map]
    exact List.map_congr_left fun i member => (each i member).2
  refine ⟨.wrap nothing.1 list, ?_⟩
  rw [Fragment.lexemes_wrap nothing.1 list, nothing.2, Expr.list,
    Fragment.lexemes_join (by decide) balanced, comma, same]
  rfl

theorem Insertion.read_eq {path behindTable behindColumns : List Lexeme}
    {table columns : List String}
    {values : List Value} (first : readPath path = some (table, .symbol '(' :: behindTable))
    (second : readItems Lexeme.name? behindTable =
      some (columns, .word "VALUES".toList :: .symbol '(' :: behindColumns))
    (third : readItems Lexeme.value? behindColumns = some (values, [])) :
    Insertion.read (.word "INSERT".toList :: .word "INTO".toList :: path) =
      some ⟨table, columns, values⟩ := by
  have words : (Lexeme.isWord "INSERT" (.word "INSERT".toList) &&
      Lexeme.isWord "INTO" (.word "INTO".toList)) = true := by decide
  have word : Lexeme.isWord "VALUES" (.word "VALUES".toList) = true := by decide
  simp only [Insertion.read, words, guard_true, first, second, word, third, List.isEmpty_nil,
    Option.bind_eq_bind, Option.pure_def, Option.bind_some]

section Insert

theorem fragment_insert {target : Query} (unlabelled : target.table.label = none)
    (everything : target.filter = none) {setters : List Setter} (nonempty : setters ≠ []) :
    (Command.insert target none setters).fragment = .clauses [keyword "INSERT", keyword "INTO",
      target.table.qualifiedName, .wrap "" (Expr.list (setters.map Setter.column)),
        keyword "VALUES", .wrap "" (Expr.list (setters.map Setter.value))] := by
  have reference : target.table.reference = target.table.qualifiedName := by
    rw [TableRef.reference, unlabelled]
  obtain ⟨first, rest, rfl⟩ := List.exists_cons_of_ne_nil nonempty
  simp [Command.fragment, Command.conflictClause?, Command.rowClauses, Query.whereClause?,
    everything, reference]

variable {ι : Type} {items : List ι} {setter : ι → Setter} {name : ι → String} {value : ι → Value}

/-- The insertion of constants into columns is read back, whatever the names are. -/
theorem Insertion.read_insert {target : Query} (unlabelled : target.table.label = none)
    (everything : target.filter = none)
    (columns : ∀ i ∈ items, (setter i).column = .column (name i))
    (values : ∀ i ∈ items, (setter i).value.constant? = some (value i)) (nonempty : items ≠ []) :
    (Command.insert target none (items.map setter)).fragment.Balanced ∧
      Insertion.read (Command.insert target none (items.map setter)).fragment.lexemes =
        some ⟨target.table.qualifiers, items.map name, items.map value⟩ := by
  have named : ∀ i ∈ items, (setter i).column.fragment.Balanced ∧
      (setter i).column.fragment.lexemes = [.ofName (name i)] := by
    intro i member
    rw [columns i member]
    exact ⟨Fragment.balanced_quote (name i), Fragment.lexemes_identifier (name i)⟩
  have constants : ∀ i ∈ items, (setter i).value.fragment.Balanced ∧
      (setter i).value.fragment.lexemes = [(setter i).value.constantLexeme] := by
    intro i member
    obtain ⟨balanced, written, -⟩ := Expr.lexemes_constant (values i member)
    exact ⟨balanced, written⟩
  obtain ⟨namesBalanced, names⟩ := lexemes_wrap_list (fun i => (setter i).column) _ named
  obtain ⟨valuesBalanced, written⟩ := lexemes_wrap_list (fun i => (setter i).value) _ constants
  let parts := [keyword "INSERT", keyword "INTO", target.table.qualifiedName,
    .wrap "" (Expr.list (items.map fun i => (setter i).column)), keyword "VALUES",
    .wrap "" (Expr.list (items.map fun i => (setter i).value))]
  have shape : (Command.insert target none (items.map setter)).fragment = .clauses parts := by
    rw [fragment_insert unlabelled everything (List.map_eq_nil_iff.not.2 nonempty), List.map_map,
      List.map_map]
    rfl
  have balanced : ∀ part ∈ parts, part.Balanced := by
    have words : (ofText "INSERT").Balanced ∧ (ofText "INTO").Balanced ∧
        (ofText "VALUES").Balanced := by decide
    simp [parts, keyword, words, namesBalanced, valuesBalanced, balanced_qualifiedName]
  have words : (keyword "INSERT").lexemes = [.word "INSERT".toList] ∧
      (keyword "INTO").lexemes = [.word "INTO".toList] ∧
      (keyword "VALUES").lexemes = [.word "VALUES".toList] := by decide
  rw [shape]
  refine ⟨.clauses balanced, ?_⟩
  rw [Fragment.lexemes_clauses balanced]
  simp only [parts, List.flatMap_cons, List.flatMap_nil, List.append_nil, List.cons_append,
    List.nil_append, words, names, written, lexemes_qualifiedName, List.append_assoc]
  apply Insertion.read_eq
  · exact readPath_intercalate (by simp [TableRef.qualifiers]) (by simp)
  · exact readItems_intercalate (fun i _ => Lexeme.name?_ofName (name i)) nonempty _
  · exact readItems_intercalate
      (fun i member => (Expr.lexemes_constant (values i member)).2.2) nonempty _

end Insert

/-- What selects a table inserts nothing. -/
theorem read_of_wholeTable {lexemes : List Lexeme} {table : List String}
    (whole : wholeTable? lexemes = some table) :
    Insertion.read lexemes = none := by
  unfold wholeTable? at whole
  split at whole
  · simp [Insertion.read, Lexeme.isWord]
  · cases whole

theorem fragment_ofTable (name : String) (schema : Option String) :
    (Query.ofTable name schema).fragment =
      .clauses
        [keyword "SELECT", Expr.list [.star], keyword "FROM",
        TableRef.qualifiedName { name, schema }] := by
  have alone : (Query.ofTable name schema).coreClauses =
      [(Query.ofTable name schema).selectClause] := rfl
  have single (f : Fragment) : Fragment.clauses [f] = f := by
    simp [Fragment.clauses, Fragment.join]
  have whole := Query.core_fragment (Query.ofTable name schema)
  rw [alone, single] at whole
  exact whole

/-- The selection of a whole table is read back. -/
theorem wholeTable?_ofTable (name : String) (schema : Option String) :
    (Query.ofTable name schema).fragment.Balanced ∧
      wholeTable? (Query.ofTable name schema).fragment.lexemes =
        some (schema.toList ++ [name]) := by
  let table : TableRef := { name, schema }
  let parts := [keyword "SELECT", Expr.list [.star], keyword "FROM", table.qualifiedName]
  have balanced : ∀ part ∈ parts, part.Balanced := by
    have words : (ofText "SELECT").Balanced ∧ (ofText "FROM").Balanced ∧
        (Expr.list [.star]).Balanced := by
      decide
    simp [parts, keyword, words, balanced_qualifiedName]
  have words : (keyword "SELECT").lexemes = [.word "SELECT".toList] ∧
      (Expr.list [.star]).lexemes = [.symbol '*'] ∧
        (keyword "FROM").lexemes = [.word "FROM".toList] := by decide
  have heads : (Lexeme.isWord "SELECT" (.word "SELECT".toList) &&
      Lexeme.isWord "FROM" (.word "FROM".toList)) = true := by decide
  have path : readPath
    ([Lexeme.symbol '.'].intercalate (table.qualifiers.map fun name => [.ofName name]) ++ []) =
      some (table.qualifiers, []) :=
    readPath_intercalate (by simp [TableRef.qualifiers]) (by simp)
  rw [List.append_nil] at path
  rw [fragment_ofTable]
  refine ⟨.clauses balanced, ?_⟩
  rw [Fragment.lexemes_clauses balanced]
  simp only [parts, List.flatMap_cons, List.flatMap_nil, List.append_nil, List.cons_append,
    List.nil_append, words, lexemes_qualifiedName, wholeTable?, heads, guard_true, path,
    List.isEmpty_nil, Option.bind_eq_bind, Option.pure_def, Option.bind_some]
  rfl

end Clauses

end TypedSql
