import TypedSql.Proofs.Grammar.Statements

namespace TypedSql.Grammar

open Clauses (Lexeme)
open scoped Computability

theorem mem_prod {languages : List (Language Lexeme)} {m : List Lexeme} :
    m ∈ languages.prod ↔ ∃ parts, List.Forall₂ (· ∈ ·) parts languages ∧ m = parts.flatten := by
  induction languages generalizing m with
  | nil =>
    rw [List.prod_nil, Language.mem_one]
    constructor
    · rintro rfl
      exact ⟨[], .nil, rfl⟩
    · rintro ⟨_, ⟨⟩, rfl⟩
      rfl
  | cons L rest ih =>
    rw [List.prod_cons, Language.mem_mul]
    constructor
    · rintro ⟨a, first, b, second, rfl⟩
      obtain ⟨parts, each, rfl⟩ := ih.1 second
      exact ⟨a :: parts, .cons first each, rfl⟩
    · rintro ⟨_, _ | ⟨first, each⟩, rfl⟩
      exact ⟨_, first, _, ih.2 ⟨_, each, rfl⟩, rfl⟩

theorem mem_optional {L : Language Lexeme} {m : List Lexeme} : m ∈ optional L ↔ m = [] ∨ m ∈ L := by
  rw [optional, Language.mem_add, Language.mem_one]

section Skips
variable {keyword : String} {a b : List Lexeme} {l : Lexeme}

theorem Skips.append (first : Skips keyword a) (second : Skips keyword b) :
    Skips keyword (a ++ b) := by
  intro depth
  rw [List.foldlM_append, first depth]
  exact second depth

theorem skips_single (notWord : l.isWord keyword = false)
    (level : ∀ depth, l.depthAfter depth = some depth) :
    Skips keyword [l] := by
  intro depth
  simp [depthPast, notWord, level]

theorem Skips.enclosed (inner : Skips keyword a) :
    Skips keyword (.symbol '(' :: (a ++ [.symbol ')'])) := by
  intro depth
  have deeper := inner (depth + 1)
  simp [depthPast, Lexeme.isWord, Lexeme.depthAfter, deeper]

/-- What is behind the first such word outside of parentheses. -/
def behind (keyword : String) : Nat → List Lexeme → Option (List Lexeme)
  | _, [] => none
  | depth, l :: rest =>
    if depth = 0 ∧ l.isWord keyword = true then some rest
    else (l.depthAfter depth).bind fun deeper => behind keyword deeper rest

theorem behind_word (found : l.isWord keyword = true) (rest : List Lexeme) :
    behind keyword 0 (l :: rest) = some rest :=
  if_pos ⟨rfl, found⟩

theorem behind_append_of_level {depth : Nat} (level : a.foldlM (depthPast keyword) depth = some 0)
    (rest : List Lexeme) : behind keyword depth (a ++ rest) = behind keyword 0 rest := by
  induction a generalizing depth with
  | nil =>
    obtain rfl : depth = 0 := Option.some.inj level
    rfl
  | cons l others ih =>
    rw [List.foldlM_cons, Option.bind_eq_bind, Option.bind_eq_some_iff] at level
    obtain ⟨deeper, here, further⟩ := level
    rw [depthPast] at here
    split at here
    · cases here
    · rename_i notWord
      rw [List.cons_append, behind, if_neg notWord, here, Option.bind_some]
      exact ih further

theorem behind_append (skips : Skips keyword a) (rest : List Lexeme) :
    behind keyword 0 (a ++ rest) = behind keyword 0 rest :=
  behind_append_of_level (skips 0) rest

theorem behind_skips (skips : Skips keyword a) : behind keyword 0 a = none := by
  have past := behind_append skips []
  rwa [List.append_nil] at past

/-- A language of texts that are skipped. -/
def SkipsAll (keyword : String) (L : Language Lexeme) : Prop :=
  ∀ m ∈ L, Skips keyword m

namespace SkipsAll
variable {L M : Language Lexeme}

theorem add (first : SkipsAll keyword L) (second : SkipsAll keyword M) :
    SkipsAll keyword (L + M) := by
  intro m member
  rcases (Language.mem_add L M m).1 member with inFirst | inSecond
  · exact first m inFirst
  · exact second m inSecond

theorem mul (first : SkipsAll keyword L) (second : SkipsAll keyword M) :
    SkipsAll keyword (L * M) := by
  rintro _ ⟨a, inFirst, b, inSecond, rfl⟩
  exact (first a inFirst).append (second b inSecond)

theorem star (each : SkipsAll keyword L) : SkipsAll keyword L∗ := by
  rintro _ ⟨parts, rfl, member⟩
  induction parts with
  | nil => exact fun _ => rfl
  | cons part rest ih =>
    obtain ⟨first, others⟩ := List.forall_mem_cons.1 member
    rw [List.flatten_cons]
    exact (each part first).append (ih others)

theorem optional (skips : SkipsAll keyword L) : SkipsAll keyword (optional L) := by
  intro m member
  rcases mem_optional.1 member with rfl | present
  · exact fun _ => rfl
  · exact skips m present

theorem prod {languages : List (Language Lexeme)} (each : languages.Forall (SkipsAll keyword)) :
    SkipsAll keyword languages.prod := by
  rw [List.forall_iff_forall_mem] at each
  induction languages with
  | nil =>
    rintro _ rfl
    exact fun _ => rfl
  | cons L rest ih =>
    obtain ⟨first, others⟩ := List.forall_mem_cons.1 each
    rw [List.prod_cons]
    exact first.mul (ih others)

theorem word {other : String} (apart : other ≠ keyword) : SkipsAll keyword (word other) := by
  rintro _ ⟨l, rfl, found⟩
  cases l with
  | word letters =>
    refine skips_single ?_ fun _ => rfl
    simp only [Lexeme.isWord, decide_eq_true_eq] at found
    simpa [Lexeme.isWord, found, String.toList_inj] using apart
  | _ => cases found

theorem oneOf {others : List String} (apart : ∀ other ∈ others, other ≠ keyword) :
    SkipsAll keyword (oneOf others) := by
  rintro m ⟨other, known, member⟩
  exact word (apart other known) m member

theorem mark {c : Char} (notOpening : c ≠ '(') (notClosing : c ≠ ')') :
    SkipsAll keyword (mark c) := by
  rintro _ rfl
  exact skips_single rfl fun depth => by simp [Lexeme.depthAfter, notOpening, notClosing]

theorem name : SkipsAll keyword name := by
  rintro _ ⟨text, rfl⟩
  exact skips_single rfl fun _ => rfl

theorem listed (each : SkipsAll keyword L) : SkipsAll keyword (listed L) :=
  each.mul (star ((mark (by decide) (by decide)).mul each))

theorem enclosed (inner : SkipsAll keyword L) : SkipsAll keyword (enclosed L) := by
  rintro _ ⟨m, member, rfl⟩
  exact (inner m member).enclosed

end SkipsAll

end Skips

namespace Expressions
variable {E : Expressions}

theorem skipsAll (E : Expressions) {keyword : String} (known : keyword ∈ ["WHERE", "GROUP"]) :
    SkipsAll keyword E.forms :=
  fun a member => E.skips a member keyword known

theorem skips_source {keyword : String} (notAs : "AS" ≠ keyword) : SkipsAll keyword source := by
  have dotted : SkipsAll keyword (name * mark '.') := .mul .name (.mark (by decide) (by decide))
  exact .prod ⟨.mul (.optional dotted) .name, .optional (.mul (.word notAs) .name)⟩

theorem skips_insert : SkipsAll "WHERE" E.insert := by
  have forms := E.skipsAll (by simp : "WHERE" ∈ ["WHERE", "GROUP"])
  have action : SkipsAll "WHERE" onConflict := .mul (.word (by decide)) (.oneOf (by decide))
  exact .prod ⟨.word (by decide), .optional action, .word (by decide), skips_source (by decide),
    .optional (.enclosed (.listed .name)), .word (by decide), .listed (.enclosed (.listed forms))⟩

theorem skips_selection : SkipsAll "GROUP" E.selection := by
  have forms := E.skipsAll (by simp : "GROUP" ∈ ["WHERE", "GROUP"])
  have label : SkipsAll "GROUP" (optional (optional (word "AS") * name)) :=
    .optional (.mul (.optional (.word (by decide))) .name)
  have star : SkipsAll "GROUP" (mark '*') := .mark (by decide) (by decide)
  have dot : SkipsAll "GROUP" (mark '.') := .mark (by decide) (by decide)
  have column : SkipsAll "GROUP" E.resultColumn :=
    .add star (.add (.mul .name (.mul dot star)) (.mul forms label))
  exact .prod
    ⟨.mul (.word (by decide)) (.optional (.oneOf (by decide))), .listed column, .word (by decide),
    skips_source (by decide)⟩

theorem skips_join : SkipsAll "GROUP" E.join∗ := by
  have forms := E.skipsAll (by simp : "GROUP" ∈ ["WHERE", "GROUP"])
  have outer : SkipsAll "GROUP" (word "LEFT" * optional (word "OUTER")) :=
    .mul (.word (by decide)) (.optional (.word (by decide)))
  exact .star
    (.prod ⟨.mul (.add (.oneOf (by decide)) outer) (.word (by decide)), skips_source (by decide),
    .word (by decide), forms⟩)

theorem skips_whereClause : SkipsAll "GROUP" E.whereClause := by
  have forms := E.skipsAll (by simp : "GROUP" ∈ ["WHERE", "GROUP"])
  exact .prod ⟨.word (by decide), forms⟩

theorem skips_orderClause : SkipsAll "GROUP" E.orderClause := by
  have forms := E.skipsAll (by simp : "GROUP" ∈ ["WHERE", "GROUP"])
  exact .prod
    ⟨.mul (.word (by decide)) (.word (by decide)),
    .listed (.mul forms (.optional (.oneOf (by decide))))⟩

theorem skips_limitClause : SkipsAll "GROUP" E.limitClause := by
  have forms := E.skipsAll (by simp : "GROUP" ∈ ["WHERE", "GROUP"])
  have offset : SkipsAll "GROUP" [word "OFFSET", E.forms].prod := .prod ⟨.word (by decide), forms⟩
  exact .prod ⟨.word (by decide), forms, .optional offset⟩

theorem exists_cons_of_listed {L : Language Lexeme} {P : Lexeme → Prop}
    (begins : ∀ a ∈ L, ∃ x rest, a = x :: rest ∧ P x) {m : List Lexeme} (member : m ∈ listed L) :
    ∃ x rest, m = x :: rest ∧ P x := by
  obtain ⟨a, first, more, _, rfl⟩ := member
  obtain ⟨x, rest, rfl, holds⟩ := begins a first
  exact ⟨x, rest ++ more, rfl, holds⟩

/-- A statement with a group has an expression behind BY. -/
theorem behind_group_of_select {m rest : List Lexeme} (member : m ∈ E.select)
    (found : behind "GROUP" 0 m = some rest) :
    ∃ l x more, rest = l :: x :: more ∧ ∀ keyword ∈ ["HAVING", "ORDER", "LIMIT"],
      x.isWord keyword = false := by
  obtain ⟨parts, each, rfl⟩ := mem_prod.1 member
  obtain _ | ⟨selection, _ | ⟨joins, _ | ⟨filter, _ | ⟨group, _ | ⟨order, _ | ⟨limit, ⟨⟩⟩⟩⟩⟩⟩⟩ :=
    each
  simp only [List.flatten_cons, List.flatten_nil, List.append_nil] at found
  rw [behind_append (skips_selection _ selection), behind_append (skips_join _ joins),
    behind_append (skips_whereClause.optional _ filter)] at found
  have closing := (skips_orderClause.optional _ order).append (skips_limitClause.optional _ limit)
  rcases mem_optional.1 group with rfl | group
  · rw [List.nil_append, behind_skips closing] at found
    cases found
  · obtain ⟨parts, each, rfl⟩ := mem_prod.1 group
    obtain _ | ⟨words, _ | ⟨terms, _ | ⟨having, ⟨⟩⟩⟩⟩ := each
    obtain ⟨_, ⟨l, rfl, opens⟩, _, ⟨by', rfl, _⟩, rfl⟩ := words
    obtain ⟨x, more, rfl, notClause⟩ := exists_cons_of_listed (fun a form => E.begins a form) terms
    simp only [List.flatten_cons, List.cons_append, List.nil_append, behind_word opens] at found
    refine ⟨by', x, _, (Option.some.inj found).symm, fun keyword known => notClause keyword ?_⟩
    exact List.mem_cons_of_mem _ (List.mem_cons_of_mem _ known)

/-- Behind SELECT, and DISTINCT or ALL, a result column begins. -/
theorem exists_column_of_select {m : List Lexeme} (member : m ∈ E.select) :
    ∃ l d x rest, m = l :: (d ++ x :: rest) ∧ d ∈ optional (oneOf ["DISTINCT", "ALL"]) ∧
      ∀ keyword ∈ ["DISTINCT", "FROM"], x.isWord keyword = false := by
  have begins : ∀ a ∈ E.resultColumn, ∃ x rest, a = x :: rest ∧
      ∀ keyword ∈ ["DISTINCT", "FROM"], x.isWord keyword = false := by
    intro a column
    rcases (Language.mem_add _ _ _).1 column with rfl | column
    · exact ⟨_, [], rfl, fun _ _ => rfl⟩
    · rcases (Language.mem_add _ _ _).1 column with
        ⟨_, ⟨text, rfl⟩, _, _, rfl⟩ | ⟨_, form, _, _, rfl⟩
      · exact ⟨_, _, rfl, fun _ _ => rfl⟩
      · obtain ⟨x, rest, rfl, notClause⟩ := E.begins _ form
        refine ⟨x, _, rfl, fun keyword known => notClause keyword ?_⟩
        simp only [List.mem_cons, List.not_mem_nil, or_false] at known ⊢
        rcases known with rfl | rfl <;> simp
  obtain ⟨parts, each, rfl⟩ := mem_prod.1 member
  obtain _ | ⟨selection, _⟩ := each
  obtain ⟨parts, each, rfl⟩ := mem_prod.1 selection
  obtain _ | ⟨words, _ | ⟨columns, _⟩⟩ := each
  obtain ⟨_, ⟨l, rfl, _⟩, d, distinct, rfl⟩ := words
  obtain ⟨x, rest, rfl, notClause⟩ := exists_cons_of_listed begins columns
  simp only [List.flatten_cons, List.cons_append, List.nil_append, List.append_assoc]
  exact ⟨l, d, x, _, rfl, distinct, notClause⟩

end Expressions

end TypedSql.Grammar
