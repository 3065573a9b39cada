import TypedSql.Database.Token
import TypedSql.Proofs.Writing

/-! The text of a statement as words, quoted texts, placeholders with their values and single
marks: what the clauses of a statement are told apart by. A fragment that ends outside
quotes and has a placeholder for each value can be cut off wherever a character follows
that is part of no word, so the lexemes of a statement are those of its parts. -/
namespace TypedSql

namespace Clauses

open Database (isBlank isWordChar)
open Text (Region placeholders)

inductive Lexeme where
  /-- A keyword, a bare name or a number. -/
  | word (letters : List Char)
  /-- A name or a string, by its quote. -/
  | quoted (mark : Char) (text : List Char)
  | symbol (c : Char)
  | bound (value : Value)
  /-- What no clause is made of: a comment, a quote left open, the end of a statement, or a
  name in brackets or backquotes. -/
  | stray
  deriving DecidableEq

/-- The part of a lexeme that is already read. -/
inductive Pending where
  | nothing
  | word (letters : List Char)
  | symbol (c : Char)
  /-- A quoted text, from its opening quote on. -/
  | quoted (mark : Char) (text : List Char)
  /-- A quoted text up to a quote, the last one unless another follows. -/
  | closed (mark : Char) (text : List Char)
  | stray
  deriving DecidableEq

namespace Pending

def start (c : Char) : Pending :=
  if isBlank c then .nothing
  else if c = '"' ∨ c = '\'' then .quoted c []
  else if c ∈ ['`', '[', ';'] then .stray
  else if isWordChar c then .word [c]
  else .symbol c

/-- The longer part, if the character belongs to the same lexeme. Two marks make a comment. -/
def extend : Pending → Char → Option Pending
  | word letters, c => if isWordChar c then some (.word (letters ++ [c])) else none
  | symbol d, c => if [('-', '-'), ('/', '*')].contains (d, c) then some .stray else none
  | quoted mark text, c => some (if c = mark then .closed mark text else .quoted mark (text ++ [c]))
  | closed mark text, c => if c = mark then some (.quoted mark (text ++ [mark])) else none
  | nothing, _ | stray, _ => none

/-- The lexeme that ends here, if there is one. -/
def lexemes : Pending → List Lexeme
  | nothing => []
  | word letters => [.word letters]
  | symbol c => [.symbol c]
  | closed mark text => [.quoted mark text]
  | quoted _ _ | stray => [.stray]

/-- What is pending behind one more character. A placeholder is complete at once. -/
def after (pending : Pending) (c : Char) : Pending :=
  (pending.extend c).getD (if c = '?' then .nothing else .start c)

def afterAll (pending : Pending) (cs : List Char) : Pending :=
  cs.foldl after pending

/-- Where the characters read last stand. -/
def region : Pending → Region
  | quoted mark _ => .quoted mark
  | _ => .plain

/-- A quoted text has one of the two quotes. -/
def Proper : Pending → Prop
  | quoted mark _ | closed mark _ => mark = '"' ∨ mark = '\''
  | _ => True

end Pending

/-- The lexemes of a text. A placeholder without a value is NULL. -/
def lex : Pending → List Char → List Value → List Lexeme
  | pending, [], _ => pending.lexemes
  | pending, c :: rest, values =>
    match pending.extend c with
    | some longer => lex longer rest values
    | none =>
      pending.lexemes ++
        if c = '?' then .bound (values.headD .null) :: lex .nothing rest values.tail
        else lex (.start c) rest values

namespace Pending

variable {pending : Pending}

theorem region_start (c : Char) : (start c).region = Region.plain.after c := by
  unfold start
  by_cases quote : c = '"' ∨ c = '\''
  · have solid : isBlank c = false := by rcases quote with rfl | rfl <;> decide
    simp [quote, solid, region, Region.after]
  · simp only [quote, ↓reduceIte, Region.after]
    repeat' split
    all_goals rfl

theorem proper_start (c : Char) : (start c).Proper := by
  unfold start
  repeat' split
  all_goals first | assumption | trivial

theorem region_of_complete {c : Char} (ends : pending.extend c = none) :
    pending.region = .plain := by
  cases pending with
  | quoted mark text => simp [extend] at ends
  | nothing | word | symbol | closed | stray => rfl

theorem extend_placeholder (proper : pending.Proper) (outside : pending.region = .plain) :
    pending.extend '?' = none := by
  cases pending with
  | nothing | stray => rfl
  | word letters =>
    have notPart : isWordChar '?' = false := by decide
    simp [extend, notPart]
  | symbol d => simp [extend]
  | quoted mark text => simp [region] at outside
  | closed mark text =>
    have notMark : '?' ≠ mark := by rintro rfl; simp [Proper] at proper
    exact if_neg notMark

/-- Each character takes the pending part to the region that the character itself leads to. -/
theorem region_after (proper : pending.Proper) (c : Char) :
    (pending.after c).Proper ∧ (pending.after c).region = pending.region.after c := by
  have fresh (ends : pending.extend c = none) :
      (pending.after c).Proper ∧ (pending.after c).region = pending.region.after c := by
    rw [region_of_complete ends, after, ends, Option.getD_none]
    by_cases mark : c = '?'
    · subst mark
      exact ⟨trivial, rfl⟩
    · simp [mark, region_start, proper_start]
  have plain (notQuote : c ≠ '"' ∧ c ≠ '\'') : Region.plain.after c = .plain := by
    simp [Region.after, notQuote]
  cases pending with
  | nothing | stray => exact fresh rfl
  | word letters =>
    by_cases part : isWordChar c = true
    · have notQuote : c ≠ '"' ∧ c ≠ '\'' := by
        constructor <;> rintro rfl <;> exact absurd part (by decide)
      simp [after, extend, part, region, Proper, plain notQuote]
    · exact fresh (by simp [extend, part])
  | symbol d =>
    by_cases comment : [('-', '-'), ('/', '*')].contains (d, c)
    · have notQuote : c ≠ '"' ∧ c ≠ '\'' := by
        constructor <;> rintro rfl <;> simp at comment
      simp only [after, extend, comment, ↓reduceIte, Option.getD_some, region, Proper,
        plain notQuote, and_self]
    · exact fresh (if_neg comment)
  | quoted mark text =>
    have quote : mark = '"' ∨ mark = '\'' := proper
    by_cases same : c = mark <;> simp [after, extend, same, region, Proper, Region.after, quote]
  | closed mark text =>
    by_cases same : c = mark
    · subst same
      have quote : c = '"' ∨ c = '\'' := proper
      simp [after, extend, region, Region.after, Proper, quote]
    · exact fresh (by simp [extend, same])

theorem region_afterAll (proper : pending.Proper) (cs : List Char) :
    (pending.afterAll cs).Proper ∧ (pending.afterAll cs).region = pending.region.afterAll cs := by
  induction cs generalizing pending with
  | nil => exact ⟨proper, rfl⟩
  | cons c rest ih =>
    obtain ⟨next, region⟩ := region_after proper c
    simpa [afterAll, Region.afterAll, region] using ih next

end Pending

/-- A lexeme that the next character does not belong to is complete. -/
theorem lex_of_complete {pending : Pending} {rest : List Char} (values : List Value)
    (complete : ∀ c ∈ rest.head?, pending.extend c = none) :
    lex pending rest values = pending.lexemes ++ lex .nothing rest values := by
  cases rest with
  | nil => simp [lex, Pending.lexemes]
  | cons c rest =>
    have ends : pending.extend c = none := complete c rfl
    have fresh : Pending.nothing.extend c = none := rfl
    rw [lex, lex, ends, fresh]
    rfl

/-- A text with a value for each placeholder has its own lexemes, unless its last one goes on. -/
theorem lex_append {pending : Pending} (proper : pending.Proper) {cs rest : List Char}
    {values : List Value} (counted : placeholders pending.region cs = values.length)
    (complete : ∀ c ∈ rest.head?, (pending.afterAll cs).extend c = none) (more : List Value) :
    lex pending (cs ++ rest) (values ++ more) =
      lex pending cs values ++ lex .nothing rest more := by
  induction cs generalizing pending values with
  | nil =>
    obtain rfl := List.eq_nil_of_length_eq_zero counted.symm
    have ends : ∀ c ∈ rest.head?, pending.extend c = none := complete
    rw [List.nil_append, List.nil_append, lex_of_complete more ends, lex]
  | cons c cs ih =>
    obtain ⟨next, region⟩ := Pending.region_after proper c
    rw [placeholders, ← region] at counted
    have step (counted : placeholders (pending.after c).region cs = values.length) :=
      ih next counted complete
    rw [List.cons_append, lex, lex]
    cases extended : pending.extend c with
    | some longer =>
      have here : pending.after c = longer := by simp [Pending.after, extended]
      have notSlot : pending.region.isPlaceholder c = false := by
        by_contra slot
        obtain ⟨outside, rfl⟩ : pending.region = .plain ∧ c = '?' := by
          simpa [Region.isPlaceholder] using slot
        simp [Pending.extend_placeholder proper outside] at extended
      rw [← here]
      exact step (by simpa [notSlot] using counted)
    | none =>
      have outside := Pending.region_of_complete extended
      have here : pending.after c = if c = '?' then .nothing else .start c := by
        simp [Pending.after, extended]
      by_cases mark : c = '?'
      · subst mark
        rw [outside] at counted
        cases values with
        | nil => simp [Region.isPlaceholder] at counted
        | cons value values =>
          have fewer : placeholders (pending.after '?').region cs = values.length := by
            simp only [Region.isPlaceholder, List.length_cons, and_self, decide_true,
              ↓reduceIte] at counted
            omega
          have step := ih next fewer complete
          simp only [here, ↓reduceIte] at step
          simp [step]
      · have step := step (by simpa [Region.isPlaceholder, mark] using counted)
        simp only [here, mark, ↓reduceIte] at step
        simp [mark, step]

/-- The characters that no word, number or quoted text goes on with. -/
def apart : List Char := [' ', '(', ')', ',', '.']

namespace Pending

/-- Nothing goes on with the next character, whichever it is. -/
def isComplete : Pending → Bool
  | nothing | stray => true
  | symbol d => d != '-' && d != '/'
  | _ => false

variable {pending : Pending}

theorem extend_of_isComplete (complete : pending.isComplete = true) (c : Char) :
    pending.extend c = none := by
  cases pending with
  | nothing | stray => rfl
  | symbol d => simp_all [isComplete, extend]
  | word | quoted | closed => simp [isComplete] at complete

theorem extend_apart (proper : pending.Proper) (outside : pending.region = .plain) {c : Char}
    (begins : c ∈ apart) : pending.extend c = none := by
  have notPart : isWordChar c = false ∧ c ≠ '-' ∧ c ≠ '*' ∧ c ≠ '"' ∧ c ≠ '\'' := by
    simp only [apart, List.mem_cons, List.not_mem_nil, or_false] at begins
    rcases begins with rfl | rfl | rfl | rfl | rfl <;> decide
  cases pending with
  | nothing | stray => rfl
  | word letters => simp [extend, notPart]
  | symbol d => simp [extend, notPart]
  | quoted mark text => simp [region] at outside
  | closed mark text =>
    have notMark : c ≠ mark := by rintro rfl; simp_all [Proper]
    exact if_neg notMark

theorem isComplete_after (proper : pending.Proper) (outside : pending.region = .plain) {c : Char}
    (begins : c ∈ apart) : (pending.after c).isComplete = true := by
  rw [after, extend_apart proper outside begins]
  simp only [apart, List.mem_cons, List.not_mem_nil, or_false] at begins
  rcases begins with rfl | rfl | rfl | rfl | rfl <;> decide

end Pending

/-- The doubled quotes of a text do not end it. -/
theorem lex_doubled (mark : Char) (read text rest : List Char) (values : List Value) :
    lex (.quoted mark read) (Text.doubled mark text ++ mark :: rest) values =
      lex (.closed mark (read ++ text)) rest values := by
  induction text generalizing read with
  | nil => simp [Text.doubled, lex, Pending.extend]
  | cons c text ih =>
    by_cases quote : c = mark
    · subst quote
      simpa [Text.doubled, lex, Pending.extend] using ih (read ++ [c])
    · simpa [Text.doubled, quote, lex, Pending.extend] using ih (read ++ [c])

theorem lex_word (read : List Char) {letters : List Char} (each : letters.all isWordChar)
    (values : List Value) :
    lex (.word read) letters values = [.word (read ++ letters)] := by
  induction letters generalizing read with
  | nil => simp [lex, Pending.lexemes]
  | cons c rest ih =>
    obtain ⟨part, others⟩ : isWordChar c = true ∧ rest.all isWordChar := by simpa using each
    simpa [lex, Pending.extend, part] using ih (read ++ [c]) others

end Clauses

namespace Fragment

open Clauses (Pending)

/-- The lexemes of a fragment, each placeholder with its value. -/
def lexemes (f : Fragment) : List Clauses.Lexeme :=
  Clauses.lex .nothing f.template.toList f.bindings

/-- What is pending at the end of a fragment. -/
def pending (f : Fragment) : Pending :=
  Pending.nothing.afterAll f.template.toList

/-- No lexeme begins in one fragment and goes on in the next. -/
def Parted (f g : Fragment) : Prop :=
  ∀ c ∈ g.template.toList.head?, f.pending.extend c = none

variable {f g : Fragment}

theorem Balanced.pending_proper (balanced : f.Balanced) :
    f.pending.Proper ∧ f.pending.region = .plain := by
  have start : Pending.nothing.Proper := trivial
  obtain ⟨proper, region⟩ := Pending.region_afterAll start f.template.toList
  exact ⟨proper, region.trans balanced.closed⟩

theorem lexemes_append (balanced : f.Balanced) (parted : f.Parted g) :
    (f ++ g).lexemes = f.lexemes ++ g.lexemes := by
  have start : Pending.nothing.Proper := trivial
  have whole := Clauses.lex_append start balanced.counted parted g.bindings
  simpa [lexemes] using whole

theorem parted_of_isComplete (complete : f.pending.isComplete = true) : f.Parted g :=
  fun c _ => Pending.extend_of_isComplete complete c

theorem Balanced.parted (balanced : f.Balanced)
    (begins : ∀ c ∈ g.template.toList.head?, c ∈ Clauses.apart) :
    f.Parted g :=
  fun c next => Pending.extend_apart balanced.pending_proper.1 balanced.pending_proper.2
    (begins c next)

/-- Behind a mark that stands apart, a text is complete. -/
theorem Balanced.isComplete_pending (balanced : f.Balanced) {c : Char}
    (begins : c ∈ Clauses.apart) :
    (f ++ Fragment.ofText (String.singleton c)).pending.isComplete = true := by
  have complete :=
    Pending.isComplete_after balanced.pending_proper.1 balanced.pending_proper.2 begins
  simpa [Fragment.pending, Pending.afterAll] using complete

theorem balanced_bound (value : Value) : (bound value).Balanced := by
  have written : (bound value).WritesTo Value.literal (ofText value.literal) := .bound value
  exact written.toBalanced

@[simp] theorem lexemes_bound (value : Value) : (bound value).lexemes = [.bound value] := by
  simp [lexemes, bound, Clauses.lex, Pending.extend, Pending.lexemes]

/-- A quoted name is one lexeme, whatever the name holds. -/
@[simp] theorem lexemes_identifier (name : String) :
    (identifier name).lexemes = [.quoted '"' name.toList] := by
  have opens (text : List Char) (values : List Value) :
      Clauses.lex .nothing ('"' :: text) values = Clauses.lex (.quoted '"' []) text values := rfl
  simp only [lexemes, identifier, Text.quote, Text.toList_quoteWith]
  rw [opens, Clauses.lex_doubled]
  rfl

/-- Text that parts whatever stands on both sides of it. -/
structure Separates (separator : String) : Prop where
  balanced : (ofText separator).Balanced
  begins : separator.toList.head?.any (· ∈ Clauses.apart)
  ends : (ofText separator).pending.isComplete = true

instance (separator : String) : Decidable (Separates separator) :=
  decidable_of_iff ((ofText separator).Balanced ∧ separator.toList.head?.any (· ∈ Clauses.apart) ∧
      (ofText separator).pending.isComplete = true)
    ⟨fun ⟨balanced, begins, ends⟩ => ⟨balanced, begins, ends⟩,
      fun separates => ⟨separates.balanced, separates.begins, separates.ends⟩⟩

variable {separator : String}

theorem Separates.begins_append (separates : Separates separator) (rest : Fragment) :
    ∀ c ∈ (ofText separator ++ rest).template.toList.head?, c ∈ Clauses.apart := by
  intro c next
  have begins := separates.begins
  cases text : separator.toList with
  | nil => simp [text] at begins
  | cons d others => simp_all

theorem Separates.lexemes_append (separates : Separates separator) (balanced : f.Balanced) :
    (f ++ (ofText separator ++ g)).lexemes =
      f.lexemes ++ ((ofText separator).lexemes ++ g.lexemes) := by
  rw [Fragment.lexemes_append balanced (balanced.parted (separates.begins_append g)),
    Fragment.lexemes_append separates.balanced (parted_of_isComplete separates.ends)]

theorem Balanced.join (separates : Separates separator) {parts : List Fragment}
    (each : ∀ part ∈ parts, part.Balanced) : (Fragment.join separator parts).Balanced := by
  induction parts with
  | nil => exact ⟨rfl, rfl⟩
  | cons part rest ih =>
    obtain ⟨first, others⟩ := List.forall_mem_cons.1 each
    cases rest with
    | nil => simpa [Fragment.join] using first
    | cons second rest =>
      rw [join_cons_cons]
      exact first.append (separates.balanced.append (ih others))

theorem lexemes_join (separates : Separates separator) {parts : List Fragment}
    (each : ∀ part ∈ parts, part.Balanced) :
    (join separator parts).lexemes =
      (ofText separator).lexemes.intercalate (parts.map lexemes) := by
  induction parts with
  | nil => rfl
  | cons part rest ih =>
    obtain ⟨first, others⟩ := List.forall_mem_cons.1 each
    cases rest with
    | nil => simp [join, lexemes]
    | cons second rest =>
      rw [join_cons_cons, separates.lexemes_append first, ih others]
      simp

theorem Balanced.clauses {parts : List Fragment} (each : ∀ part ∈ parts, part.Balanced) :
    (Fragment.clauses parts).Balanced :=
  .join (by decide) each

theorem lexemes_clauses {parts : List Fragment} (each : ∀ part ∈ parts, part.Balanced) :
    (clauses parts).lexemes = parts.flatMap lexemes := by
  have space : (ofText " ").lexemes = [] := rfl
  rw [clauses, lexemes_join (by decide) each, space]
  induction parts with
  | nil => rfl
  | cons part rest ih =>
    have others := ih (List.forall_mem_cons.1 each).2
    cases rest with
    | nil => simp
    | cons second rest => simp_all

theorem Balanced.wrap {head : String} (heads : (Fragment.ofText head).Balanced)
    (inner : f.Balanced) :
    (Fragment.wrap head f).Balanced := by
  have opening : (Fragment.ofText "(").Balanced := by decide
  have closing : (Fragment.ofText ")").Balanced := by decide
  rw [wrap_eq_append]
  exact heads.append (opening.append (inner.append closing))

theorem lexemes_wrap {head : String} (heads : (ofText head).Balanced) (inner : f.Balanced) :
    (wrap head f).lexemes =
      (ofText head).lexemes ++ .symbol '(' :: (f.lexemes ++ [.symbol ')']) := by
  have opening : Separates "(" := by decide
  have closing : ∀ c ∈ (ofText ")").template.toList.head?, c ∈ Clauses.apart := by
    simp [Clauses.apart]
  rw [wrap_eq_append, opening.lexemes_append heads, lexemes_append inner (inner.parted closing)]
  rfl

theorem Balanced.separates {word : String} (balanced : (Fragment.ofText word).Balanced) :
    Separates (" " ++ word ++ " ") where
  balanced := by
    have space : (Fragment.ofText " ").Balanced := by decide
    exact (space.append balanced).append space
  begins := by simp [Clauses.apart]
  ends := by
    have space : (Fragment.ofText " ").Balanced := by decide
    exact (space.append balanced).isComplete_pending (c := ' ') (by decide)

theorem lexemes_spaced {word : String} (balanced : (ofText word).Balanced) :
    (ofText (" " ++ word ++ " ")).lexemes = (ofText word).lexemes := by
  have space : (ofText " ").Balanced := by decide
  have before : (ofText " ").Parted (ofText word) := parted_of_isComplete (by decide)
  have behind : (ofText (" " ++ word)).Parted (ofText " ") :=
    (space.append balanced).parted (by simp [Clauses.apart])
  have whole := lexemes_append (space.append balanced) behind
  rw [lexemes_append space before] at whole
  have blank : (ofText " ").lexemes = [] := rfl
  rw [blank, List.nil_append, List.append_nil] at whole
  exact whole

end Fragment

end TypedSql
