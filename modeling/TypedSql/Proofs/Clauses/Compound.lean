import TypedSql.Proofs.Clauses.Contained
import TypedSql.Proofs.Digits
import TypedSql.Proofs.Parts

/-! A SELECT statement as a compound: the arms of its unions and, behind the last one, the
order and the limit of all of them. Which clause belongs to what is decided by the text:
outside of parentheses, each clause reaches to the word that begins the next one. -/
namespace TypedSql

/-- The rows that are left of a result, with or without a limit. -/
def limited (limit : Option Limit) (rows : List α) : List α :=
  match limit with
  | none => rows
  | some limit => (rows.drop (limit.offset.getD 0)).take limit.length

namespace Clauses

theorem Pending.start_digit {c : Char} (digit : c.isDigit = true) : start c = .word [c] := by
  have notBlank : Database.isBlank c = false := by
    simp only [Database.isBlank, Bool.or_eq_false_iff, decide_eq_false_iff_not]
    refine ⟨⟨⟨⟨?_, ?_⟩, ?_⟩, ?_⟩, ?_⟩ <;> rintro rfl <;> simp at digit
  have notQuote : ¬ (c = '"' ∨ c = '\'') := by rintro (rfl | rfl) <;> simp at digit
  have notStray : c ∉ ['`', '[', ';'] := by
    simp only [List.mem_cons, List.not_mem_nil, or_false, not_or]
    refine ⟨?_, ?_, ?_⟩ <;> rintro rfl <;> simp at digit
  have part : Database.isWordChar c = true := by simp [Database.isWordChar, digit]
  simp [start, notBlank, notQuote, notStray, part]

theorem lexemes_natText (n : Nat) :
    (Fragment.ofText (Text.natText n)).lexemes = [.word (Text.decimal n)] := by
  obtain ⟨c, rest, digits⟩ := List.exists_cons_of_ne_nil (Text.decimal_ne_nil n)
  have each : ∀ d ∈ c :: rest, d.isDigit = true := fun d member =>
    Text.isDigit_of_mem_decimal (digits ▸ member)
  obtain ⟨first, others⟩ := List.forall_mem_cons.1 each
  have parts : rest.all Database.isWordChar := by
    refine List.all_eq_true.2 fun d member => ?_
    simp [Database.isWordChar, others d member]
  have notMark : c ≠ '?' := by rintro rfl; simp at first
  have opens : lex .nothing (c :: rest) [] = lex (.word [c]) rest [] := by
    simp [lex, Pending.extend, Pending.lexemes, notMark, Pending.start_digit first]
  simp [Fragment.lexemes, Text.natText, digits, opens, lex_word [c] parts]

/-- What stands before the first clause, and the clauses, each without its first word. -/
def cut : Nat → List Lexeme → Option (List Lexeme × List (Clause × List Lexeme))
  | depth, [] => if depth = 0 then some ([], []) else none
  | depth, l :: rest =>
    match if depth = 0 then l.clause? else none with
    | some clause => (cut 0 rest).map fun (front, sections) => ([], (clause, front) :: sections)
    | none => do
      let behind ← l.depthAfter depth
      let (front, sections) ← cut behind rest
      return (l :: front, sections)

theorem cut_of_level {lexemes : List Lexeme} {depth : Nat} (closed : level depth lexemes = some 0) :
    cut depth lexemes = some (lexemes, []) := by
  induction lexemes generalizing depth with
  | nil =>
    obtain rfl : depth = 0 := Option.some.inj closed
    rfl
  | cons l rest ih =>
    obtain ⟨behind, here, further⟩ : ∃ behind, l.depthWithin depth = some behind ∧
        level behind rest = some 0 := by
      simpa [level, List.foldlM_cons, Option.bind_eq_some_iff] using closed
    unfold Lexeme.depthWithin at here
    split_ifs at here with begins
    have none : (if depth = 0 then l.clause? else none) = none := by
      split_ifs with outside
      · simpa [outside] using begins
      · rfl
    simp [cut, none, here, ih further]

/-- A text that begins with a clause ends the last one before it. -/
theorem cut_append {first second front : List Lexeme} {sections more : List (Clause × List Lexeme)}
    {depth : Nat} (before : cut depth first = some (front, sections))
    (behind : cut 0 second = some ([], more)) :
    cut depth (first ++ second) = some (front, sections ++ more) := by
  induction first generalizing depth front sections with
  | nil =>
    simp only [cut] at before
    split_ifs at before with outside
    obtain ⟨rfl, rfl⟩ := Prod.mk.inj (Option.some.inj before)
    subst outside
    exact behind
  | cons l rest ih =>
    simp only [List.cons_append, cut] at before ⊢
    split at before
    · obtain ⟨⟨inner, others⟩, cutRest, same⟩ := Option.map_eq_some_iff.1 before
      obtain ⟨rfl, rfl⟩ := Prod.mk.inj same
      simp [ih cutRest]
    · simp only [Option.bind_eq_bind, Option.bind_eq_some_iff] at before
      obtain ⟨depth', after, ⟨inner, others⟩, cutRest, same⟩ := before
      obtain ⟨rfl, rfl⟩ := Prod.mk.inj (Option.some.inj same)
      simp [after, ih cutRest]

theorem cut_clause {l : Lexeme} {clause : Clause} (begins : l.clause? = some clause)
    {lexemes front : List Lexeme} {sections : List (Clause × List Lexeme)}
    (found : cut 0 lexemes = some (front, sections)) :
    cut 0 (l :: lexemes) = some ([], (clause, front) :: sections) := by
  simp [cut, begins, found]

/-- A statement over the arms of its unions. -/
structure Compound where
  arms : List (List Lexeme)
  /-- The terms behind ORDER BY. -/
  order : Option (List Lexeme) := none
  limit : Option Limit := none
  deriving DecidableEq

namespace Compound

/-- The terms of an ORDER clause. -/
def orderTerms? : List Lexeme → Option (List Lexeme)
  | l :: terms => if l.isWord "BY" then some terms else none
  | [] => none

/-- The numbers of a LIMIT clause. -/
def limit? : List Lexeme → Option Limit
  | [.word length] => (Text.readNat? length).map fun length => { length }
  | [.word length, l, .word offset] => do
    let length ← Text.readNat? length
    let offset ← Text.readNat? offset
    if l.isWord "OFFSET" then return { length, offset := some offset } else none
  | _ => none

/-- The compound of an arm and the clauses behind it. Each arm is a SELECT; the order comes
behind the arms, and the limit behind that. -/
def ofSections (arm : List Lexeme) (sections : List (Clause × List Lexeme)) : Option Compound :=
  if arm.head?.any (Lexeme.isWord "SELECT") then
    match sections with
    | [] => some { arms := [arm] }
    | (.union, next) :: rest => (ofSections next rest).map fun c => { c with arms := arm :: c.arms }
    | [(.order, terms)] =>
      (orderTerms? terms).map fun terms => { arms := [arm], order := some terms }
    | [(.limit, bounds)] => (limit? bounds).map fun limit => { arms := [arm], limit := some limit }
    | [(.order, terms), (.limit, bounds)] => do
      return { arms := [arm], order := some (← orderTerms? terms), limit := some (← limit? bounds) }
    | _ => none
  else none

def read (lexemes : List Lexeme) : Option Compound := do
  let (arm, sections) ← cut 0 lexemes
  ofSections arm sections

/-- What `limit?` reads. -/
def boundLexemes (limit : Limit) : List Lexeme :=
  .word (Text.decimal limit.length) ::
    match limit.offset with
    | none => []
    | some offset => [.word "OFFSET".toList, .word (Text.decimal offset)]

theorem level_boundLexemes (limit : Limit) : level 0 (boundLexemes limit) = some 0 := by
  have number (n : Nat) : Lexeme.depthWithin 0 (.word (Text.decimal n)) = some 0 := by
    obtain ⟨c, rest, digits, digit⟩ := Text.decimal_eq_cons n
    have notWord (entry : String × Clause) (member : entry ∈ Clause.words) :
        Lexeme.isWord entry.1 (.word (c :: rest)) = false := by
      simp only [Clause.words, List.mem_cons, List.not_mem_nil, or_false] at member
      rw [Lexeme.isWord, decide_eq_false_iff_not, List.map_cons, Text.toUpper_of_isDigit digit]
      rcases member with rfl | rfl | rfl | rfl | rfl <;> intro same <;>
        rw [(List.cons.inj same).1] at digit <;> exact absurd digit (by decide)
    have noClause : (Lexeme.word (c :: rest)).clause? = none := by
      simpa [Lexeme.clause?] using notWord
    simp [Lexeme.depthWithin, digits, noClause, Lexeme.depthAfter]
  have word : Lexeme.depthWithin 0 (.word "OFFSET".toList) = some 0 := by decide
  obtain ⟨length, offset⟩ := limit
  cases offset with
  | none => simp [level, boundLexemes, number]
  | some offset =>
    simp only [level, boundLexemes, List.foldlM_cons, List.foldlM_nil, number, word,
      Option.bind_eq_bind, Option.bind_some]
    rfl

/-- The word that `orderTerms?` reads before the terms. -/
def byWord : Lexeme :=
  .word "BY".toList

/-- The clauses behind the arms, as they are cut from the text. -/
def closing (order : Option (List Lexeme)) (limit : Option Limit) : List (Clause × List Lexeme) :=
  order.toList.map (fun terms => (.order, byWord :: terms)) ++
    limit.toList.map fun limit => (.limit, boundLexemes limit)

theorem orderTerms?_byWord (terms : List Lexeme) : orderTerms? (byWord :: terms) = some terms := by
  have word : byWord.isWord "BY" = true := by decide
  rw [orderTerms?, if_pos word]

theorem limit?_boundLexemes (limit : Limit) : limit? (boundLexemes limit) = some limit := by
  obtain ⟨length, offset⟩ := limit
  have word : Lexeme.isWord "OFFSET" (.word "OFFSET".toList) = true := by decide
  cases offset with
  | none => simp [boundLexemes, limit?, Text.readNat?_decimal]
  | some offset => simp only [boundLexemes, limit?, Text.readNat?_decimal, word]; rfl

variable {arm : List Lexeme}

theorem ofSections_closing (select : arm.head?.any (Lexeme.isWord "SELECT"))
    (order : Option (List Lexeme))
    (limit : Option Limit) : ofSections arm (closing order limit) = some ⟨[arm], order, limit⟩ := by
  cases order <;> cases limit <;>
    simp [closing, ofSections, select, orderTerms?_byWord, limit?_boundLexemes]

/-- Arms without clauses of their own leave the closing clauses to the whole. -/
theorem ofSections_unions {arms : List (List Lexeme)} (order : Option (List Lexeme))
    (limit : Option Limit) (each : ∀ arm' ∈ arm :: arms, arm'.head?.any (Lexeme.isWord "SELECT")) :
    ofSections arm (arms.map (Clause.union, ·) ++ closing order limit) =
      some ⟨arm :: arms, order, limit⟩ := by
  induction arms generalizing arm with
  | nil => exact ofSections_closing (each arm (by simp)) order limit
  | cons next rest ih =>
    obtain ⟨first, others⟩ := List.forall_mem_cons.1 each
    rw [List.map_cons, List.cons_append, ofSections, if_pos first]
    simp [ih others]

/-- A compound has one order at most and one limit at most, whoever they were written for. -/
theorem countP_sections {c : Compound} {sections : List (Clause × List Lexeme)}
    (found : ofSections arm sections = some c) :
    sections.countP (·.1 = .order) = c.order.toList.length ∧
      sections.countP (·.1 = .limit) = c.limit.toList.length ∧
      sections.countP (·.1 = .other) = 0 := by
  fun_induction ofSections arm sections generalizing c with
  | case1 =>
    obtain rfl := Option.some.inj found
    exact ⟨rfl, rfl, rfl⟩
  | case2 arm select next rest ih =>
    obtain ⟨inner, read, rfl⟩ := Option.map_eq_some_iff.1 found
    simpa using ih read
  | case3 =>
    obtain ⟨terms, read, rfl⟩ := Option.map_eq_some_iff.1 found
    exact ⟨rfl, rfl, rfl⟩
  | case4 =>
    obtain ⟨limit, read, rfl⟩ := Option.map_eq_some_iff.1 found
    exact ⟨rfl, rfl, rfl⟩
  | case5 =>
    simp only [Option.bind_eq_bind, Option.bind_eq_some_iff] at found
    obtain ⟨terms, read, limit, bounds, same⟩ := found
    obtain rfl := Option.some.inj same
    exact ⟨rfl, rfl, rfl⟩
  | case6 | case7 => cases found

theorem countP_closing (order : Option (List Lexeme)) (limit : Option Limit) :
    (closing order limit).countP (·.1 = .order) = order.toList.length ∧
      (closing order limit).countP (·.1 = .limit) = limit.toList.length := by
  cases order <;> cases limit <;> exact ⟨rfl, rfl⟩

end Compound

end Clauses

end TypedSql
