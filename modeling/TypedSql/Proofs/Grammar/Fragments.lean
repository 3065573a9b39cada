import TypedSql.Proofs.Clauses.Insertion
import TypedSql.Proofs.Grammar.Keywords

namespace TypedSql.Grammar

open Clauses (Lexeme)
open Fragment (ofText)
open Query (keyword conjoin)
open scoped Computability

/-- The fragment is closed by itself, and its lexemes are a text of the language. -/
structure Written (L : Language Lexeme) (f : Fragment) : Prop extends f.Balanced where
  belongs : f.lexemes ∈ L

/-- Fragments are written in a sequence of languages. Several fragments may make one text of
the sequence, and an empty text needs none. -/
inductive Sequence : List Fragment → List (Language Lexeme) → Prop where
  | nil : Sequence [] []
  | cons (written : Written L f) (rest : Sequence fragments languages) :
      Sequence (f :: fragments) (L :: languages)
  | group (inner : Sequence parts pieces) (le : pieces.prod ≤ L)
      (rest : Sequence fragments languages) :
      Sequence (parts ++ fragments) (L :: languages)

section Parts
variable {L M : Language Lexeme} {f g : Fragment}

theorem le_optional (L : Language Lexeme) : L ≤ optional L :=
  fun _ member => mem_optional.2 (.inr member)

theorem word_le_oneOf {keyword : String} {keywords : List String} (known : keyword ∈ keywords) :
    word keyword ≤ oneOf keywords :=
  fun _ member => ⟨keyword, known, member⟩

theorem one_le_optional (L : Language Lexeme) : 1 ≤ optional L :=
  fun _ member => mem_optional.2 (.inl member)

theorem le_first (L M : Language Lexeme) : L ≤ L + M :=
  fun m member => (Language.mem_add L M m).2 (.inl member)

theorem le_second (L M : Language Lexeme) : M ≤ L + M :=
  fun m member => (Language.mem_add L M m).2 (.inr member)

theorem le_listed (L : Language Lexeme) : L ≤ listed L :=
  le_mul_of_one_le_right' one_le_kstar

theorem Written.mono (written : Written L f) (le : L ≤ M) : Written M f :=
  ⟨written.toBalanced, le written.belongs⟩

theorem Written.begins {keyword : String} {languages : List (Language Lexeme)}
    (written : Written (word keyword :: languages).prod f) :
    ∃ l rest, f.lexemes = l :: rest ∧ l.isWord keyword = true := by
  have belongs := written.belongs
  rw [List.prod_cons] at belongs
  obtain ⟨_, ⟨l, rfl, opens⟩, rest, _, same⟩ := belongs
  exact ⟨l, rest, same.symm, opens⟩

/-- A clause that is left out is skipped like one that is there. -/
theorem SkipsAll.clause {keyword : String} (skips : SkipsAll keyword L) {clause : Option Fragment}
    (each : ∀ f ∈ clause, Written L f) :
    Skips keyword (clause.toList.flatMap Fragment.lexemes) := by
  cases clause with
  | none => exact fun _ => rfl
  | some f => simpa using skips _ (each f rfl).belongs

namespace Sequence
variable {fragments : List Fragment} {languages : List (Language Lexeme)}

theorem clause {clause : Option Fragment} (nothing : 1 ≤ L) (each : ∀ f ∈ clause, Written L f)
    (rest : Sequence fragments languages) :
    Sequence (clause.toList ++ fragments) (L :: languages) := by
  cases clause with
  | none => exact .group .nil nothing rest
  | some f => exact .cons (each f rfl) rest

theorem optional {clause : Option Fragment} (each : ∀ f ∈ clause, Written L f)
    (rest : Sequence fragments languages) :
    Sequence (clause.toList ++ fragments) (optional L :: languages) :=
  .clause (one_le_optional L) (fun f found => (each f found).mono (le_optional L)) rest

theorem balanced (sequence : Sequence fragments languages) : ∀ f ∈ fragments, f.Balanced := by
  induction sequence with
  | nil => simp
  | cons written _ ih => exact List.forall_mem_cons.2 ⟨written.toBalanced, ih⟩
  | group _ _ _ inner ih => exact List.forall_mem_append.2 ⟨inner, ih⟩

theorem belongs (sequence : Sequence fragments languages) :
    fragments.flatMap Fragment.lexemes ∈ languages.prod := by
  induction sequence with
  | nil => exact rfl
  | cons written _ ih =>
    rw [List.prod_cons]
    exact Language.append_mem_mul written.belongs ih
  | group _ le _ inner ih =>
    rw [List.prod_cons, List.flatMap_append]
    exact Language.append_mem_mul (le inner) ih

theorem written (sequence : Sequence fragments languages) :
    Written languages.prod (.clauses fragments) := by
  refine ⟨.clauses sequence.balanced, ?_⟩
  rw [Fragment.lexemes_clauses sequence.balanced]
  exact sequence.belongs

end Sequence

theorem intercalate_cons (separator first : List Lexeme) (rest : List (List Lexeme)) :
    separator.intercalate (first :: rest) = first ++ (rest.map (separator ++ ·)).flatten := by
  induction rest generalizing first with
  | nil => simp
  | cons second rest ih => simp [List.intercalate_cons_cons, ih]

theorem Written.listed {parts : List Fragment} (each : ∀ part ∈ parts, Written L part)
    (given : parts ≠ []) :
    Written (listed L) (.join ", " parts) := by
  have balanced : ∀ part ∈ parts, part.Balanced := fun part member => (each part member).toBalanced
  have comma : (ofText ", ").lexemes = [.symbol ','] := by decide
  refine ⟨.join (by decide) balanced, ?_⟩
  rw [Fragment.lexemes_join (by decide) balanced, comma]
  obtain ⟨first, rest, rfl⟩ := List.exists_cons_of_ne_nil given
  obtain ⟨one, others⟩ := List.forall_mem_cons.1 each
  rw [List.map_cons, intercalate_cons]
  refine Language.append_mem_mul one.belongs (Language.join_mem_kstar ?_)
  rw [List.map_map]
  exact List.forall_mem_map.2 fun part member =>
    Language.append_mem_mul rfl (others part member).belongs

theorem Written.enclosed (written : Written L f) : Written (enclosed L) (.wrap "" f) := by
  have nothing : (ofText "").Balanced ∧ (ofText "").lexemes = [] := by decide
  refine ⟨.wrap nothing.1 written.toBalanced, f.lexemes, written.belongs, ?_⟩
  rw [Fragment.lexemes_wrap nothing.1 written.toBalanced, nothing.2]
  rfl

theorem lexemes_operation {symbol : String} {op : Lexeme}
    (spaced : Fragment.Separates (" " ++ symbol ++ " "))
    (sign : (ofText (" " ++ symbol ++ " ")).lexemes = [op]) (first : f.Balanced)
    (second : g.Balanced) :
    (Fragment.operation symbol f g true).Balanced ∧ (Fragment.operation symbol f g true).lexemes =
      .symbol '(' :: (f.lexemes ++ op :: (g.lexemes ++ [.symbol ')'])) := by
  have parts : ∀ part ∈ [f, g], part.Balanced := by simp [first, second]
  have bare := Fragment.Balanced.join spaced parts
  have nothing : (ofText "").Balanced ∧ (ofText "").lexemes = [] := by decide
  refine ⟨.wrap nothing.1 bare, ?_⟩
  rw [Fragment.operation, if_pos rfl, Fragment.lexemes_wrap nothing.1 bare,
    Fragment.lexemes_join spaced parts, sign, nothing.2]
  simp

theorem written_words {text : String} {words : List String}
    (spelled :
      (ofText text).Balanced ∧ (ofText text).lexemes = words.map (fun w => .word w.toList) ∧
      ∀ w ∈ words, w.toList.map Char.toUpper = w.toList) :
    Written (words.map word).prod (ofText text) := by
  obtain ⟨balanced, lexemes, upper⟩ := spelled
  refine ⟨balanced, ?_⟩
  rw [lexemes]
  clear lexemes
  induction words with
  | nil => exact rfl
  | cons w rest ih =>
    obtain ⟨first, others⟩ := List.forall_mem_cons.1 upper
    have here : [Lexeme.word w.toList] ∈ word w := ⟨_, rfl, by simp [Lexeme.isWord, first]⟩
    rw [List.map_cons, List.map_cons, List.prod_cons]
    exact Language.append_mem_mul here (ih others)

theorem written_word {keyword : String}
    (spelled : (ofText keyword).Balanced ∧ (ofText keyword).lexemes = [.word keyword.toList] ∧
      keyword.toList.map Char.toUpper = keyword.toList) :
    Written (word keyword) (ofText keyword) := by
  obtain ⟨balanced, lexemes, upper⟩ := spelled
  exact ⟨balanced, _, lexemes, by simp [Lexeme.isWord, upper]⟩

theorem written_identifier (text : String) : Written name (.identifier text) :=
  ⟨Fragment.balanced_quote text, text.toList, Fragment.lexemes_identifier text⟩

end Parts

theorem written_qualifiedName (table : TableRef) :
    Written (optional (name * mark '.') * name) table.qualifiedName := by
  refine ⟨Clauses.balanced_qualifiedName table, ?_⟩
  rw [Clauses.lexemes_qualifiedName, TableRef.qualifiers]
  have known (text : String) : [Lexeme.ofName text] ∈ name := ⟨_, rfl⟩
  cases table.schema with
  | none =>
    have nothing : [] ∈ optional (name * mark '.') := mem_optional.2 (.inl rfl)
    simpa using Language.append_mem_mul nothing (known table.name)
  | some schema =>
    have dotted : [Lexeme.ofName schema] ++ [.symbol '.'] ∈ name * mark '.' :=
      Language.append_mem_mul (known schema) rfl
    have before := le_optional _ dotted
    simpa using Language.append_mem_mul before (known table.name)

theorem Written.source {f : Fragment} (written : Written (optional (name * mark '.') * name) f) :
    Written Expressions.source f := by
  refine written.mono ?_
  simp only [Expressions.source, List.prod_cons, List.prod_nil, mul_one]
  exact le_mul_of_one_le_right' (one_le_optional _)

theorem written_declaration (table : TableRef) : Written Expressions.source table.declaration := by
  unfold TableRef.declaration
  cases table.label with
  | none => exact (written_qualifiedName table).source
  | some label =>
    have as : Written (word "AS") (ofText "AS") := written_word (by decide)
    have labelled := Sequence.cons as (.cons (written_identifier label) .nil)
    have le : [word "AS", name].prod ≤ optional (word "AS" * name) := by
      simpa using le_optional (word "AS" * name)
    exact (Sequence.cons (written_qualifiedName table) (.group labelled le .nil)).written

theorem written_reference (table : TableRef) : Written Expressions.source table.reference := by
  unfold TableRef.reference
  cases table.label with
  | none => exact (written_qualifiedName table).source
  | some label =>
    exact ((written_identifier label).mono (le_mul_of_one_le_left' (one_le_optional _))).source

end TypedSql.Grammar
