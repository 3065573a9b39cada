import TypedSql.Database.Token
import TypedSql.Expr.Basic
import TypedSql.Proofs.Regions

/-! The text of an expression as tokens. A text is read one character at a time, and a
token is complete when the next character cannot belong to it. Each placeholder takes
the next value. Keywords are known in the case in which they are written here; a text
with numbers, strings or comments has stray tokens, which no expression is made of. -/
namespace TypedSql

namespace Reading

open Database (isBlank isWordStart isWordChar)
open Fragment (ofText)

inductive Token where
  /-- An identifier between double quotes. -/
  | name (text : String)
  /-- A placeholder with its value. -/
  | bound (value : Value)
  | operator (op : BinaryOp)
  | complement
  | not
  | between
  | oneOf
  | null
  | rowid
  | cast
  | as
  | distinct
  | aggregate (function : Aggregate)
  | type (target : DeclaredType)
  | opening
  | closing
  | comma
  | dot
  | stray
  deriving DecidableEq

def Token.words : List (String × Token) :=
  [("AND", .operator .and), ("OR", .operator .or), ("IS", .operator .is),
    ("LIKE", .operator .like), ("NOT", .not), ("BETWEEN", .between), ("IN", .oneOf),
    ("NULL", .null), ("ROWID", .rowid), ("CAST", .cast), ("AS", .as), ("DISTINCT", .distinct),
    ("INTEGER", .type .integer), ("REAL", .type .real), ("TEXT", .type .text),
    ("BLOB", .type .blob), ("count", .aggregate .count), ("max", .aggregate .max),
    ("min", .aggregate .min), ("avg", .aggregate .average), ("sum", .aggregate .sum),
    ("total", .aggregate .total)]

/-- The last two begin comments. -/
def Token.symbols : List (String × Token) :=
  [("=", .operator .eq), ("==", .operator .eq), ("!=", .operator .notEq), ("<>", .operator .notEq),
    ("<", .operator .lt), ("<=", .operator .ltEq), (">", .operator .gt), (">=", .operator .gtEq),
    ("||", .operator .concat), ("+", .operator .add), ("-", .operator .sub),
    ("*", .operator .mul), ("/", .operator .div), ("%", .operator .rem),
    ("<<", .operator .shiftLeft), (">>", .operator .shiftRight), ("&", .operator .bitAnd),
    ("|", .operator .bitOr), ("~", .complement), ("(", .opening), (")", .closing),
    (",", .comma), (".", .dot), ("--", .stray), ("/*", .stray)]

/-- The token that a table has for a text. -/
def Token.find (table : List (String × Token)) (text : List Char) : Token :=
  ((table.find? fun entry => entry.1.toList = text).map Prod.snd).getD .stray

/-- The part of a token that is already read. -/
inductive Pending where
  | nothing
  | word (letters : List Char)
  | symbol (marks : List Char)
  /-- A quoted name, from its opening quote on. -/
  | name (text : List Char)
  /-- A quoted name up to a quote, the last one unless another quote follows. -/
  | closed (text : List Char)
  deriving DecidableEq

namespace Pending

def start (c : Char) : Pending :=
  if isBlank c then .nothing
  else if c = '"' then .name []
  else if isWordStart c then .word [c]
  else .symbol [c]

/-- The longer part, if the character belongs to the same token. -/
def extend : Pending → Char → Option Pending
  | nothing, _ => none
  | word letters, c => if isWordChar c then some (.word (letters ++ [c])) else none
  | symbol marks, c =>
    if Token.symbols.any fun entry => entry.1.toList = marks ++ [c] then
      some (.symbol (marks ++ [c]))
    else none
  | name text, c => some (if c = '"' then .closed text else .name (text ++ [c]))
  | closed text, c => if c = '"' then some (.name (text ++ ['"'])) else none

/-- The token that ends here, if there is one. -/
def tokens : Pending → List Token
  | nothing => []
  | word letters => [Token.find Token.words letters]
  | symbol marks => [Token.find Token.symbols marks]
  | name _ => [.stray]
  | closed text => [.name (String.ofList text)]

end Pending

/-- The tokens of a text. A placeholder without a value is NULL. -/
def lex : Pending → List Char → List Value → List Token
  | pending, [], _ => pending.tokens
  | pending, c :: rest, values =>
    match pending.extend c with
    | some longer => lex longer rest values
    | none =>
      pending.tokens ++
        if c = '?' then .bound (values.headD .null) :: lex .nothing rest values.tail
        else lex (.start c) rest values

theorem lex_of_complete {pending : Pending} {rest : List Char} (values : List Value)
    (complete : ∀ c ∈ rest.head?, pending.extend c = none) :
    lex pending rest values = pending.tokens ++ lex .nothing rest values := by
  cases rest with
  | nil => simp [lex, Pending.tokens]
  | cons c rest =>
    have ends : pending.extend c = none := complete c rfl
    have fresh : Pending.nothing.extend c = none := rfl
    rw [lex, lex, ends, fresh]
    rfl

/-- The tokens of a text without placeholders, and what is pending behind it. -/
def scan : Pending → List Char → List Token × Pending
  | pending, [] => ([], pending)
  | pending, c :: rest =>
    match pending.extend c with
    | some longer => scan longer rest
    | none =>
      let (tokens, last) := scan (.start c) rest
      (pending.tokens ++ tokens, last)

theorem lex_append {pending : Pending} {cs : List Char} (free : '?' ∉ cs) (rest : List Char)
    (values : List Value) :
    lex pending (cs ++ rest) values =
      (scan pending cs).1 ++ lex (scan pending cs).2 rest values := by
  induction cs generalizing pending with
  | nil => rfl
  | cons c cs ih =>
    obtain ⟨notMark, free⟩ := not_or.1 (List.mem_cons.not.1 free)
    simp only [List.cons_append, lex, scan]
    cases pending.extend c with
    | some longer => exact ih free
    | none => simp [ih free, Ne.symm notMark]

/-- The characters that end every token but an open name. -/
def apart : List Char := [' ', '(', ')', ',', '.']

/-- The text is over or goes on with a character that ends tokens. -/
def Apart (rest : List Char) : Prop :=
  ∀ c ∈ rest.head?, c ∈ apart

/-- A fragment has these tokens, whatever stands behind it. -/
def Closes (f : Fragment) (tokens : List Token) : Prop :=
  ∀ (rest : List Char) (more : List Value),
    lex .nothing (f.template.toList ++ rest) (f.bindings ++ more) = tokens ++ lex .nothing rest more

/-- A fragment has these tokens where the text goes on apart from it. -/
def Spells (f : Fragment) (tokens : List Token) : Prop :=
  ∀ (rest : List Char) (more : List Value), Apart rest →
    lex .nothing (f.template.toList ++ rest) (f.bindings ++ more) = tokens ++ lex .nothing rest more

section Composition
variable {f g : Fragment} {first second : List Token}

theorem Closes.spells (closes : Closes f first) : Spells f first :=
  fun rest more _ => closes rest more

theorem Spells.tokens_eq (spells : Spells f first) :
    lex .nothing f.template.toList f.bindings = first := by
  have whole := spells [] [] (by simp [Apart])
  simpa [lex, Pending.tokens] using whole

theorem Closes.append (closes : Closes f first) (behind : Closes g second) :
    Closes (f ++ g) (first ++ second) := by
  intro rest more
  simp only [Fragment.template_append, Fragment.bindings_append, String.toList_append,
    List.append_assoc]
  rw [closes, behind]

theorem Closes.append_spells (closes : Closes f first) (behind : Spells g second) :
    Spells (f ++ g) (first ++ second) := by
  intro rest more ends
  simp only [Fragment.template_append, Fragment.bindings_append, String.toList_append,
    List.append_assoc]
  rw [closes, behind rest more ends]

/-- Text that begins apart ends the token before it. -/
theorem Spells.append_closes (spells : Spells f first) (behind : Closes g second)
    (begins : g.template.toList.head?.any (· ∈ apart)) : Closes (f ++ g) (first ++ second) := by
  intro rest more
  have ends : Apart (g.template.toList ++ rest) := by
    intro c next
    cases text : g.template.toList with
    | nil => simp [text] at begins
    | cons d others => simp_all
  simp only [Fragment.template_append, Fragment.bindings_append, String.toList_append,
    List.append_assoc]
  rw [spells _ _ ends, behind]

theorem spells_ofText {text : String} {tokens : List Token}
    (fixed :
      '?' ∉ text.toList ∧ apart.all (fun c => (scan .nothing text.toList).2.extend c = none) ∧
      (scan .nothing text.toList).1 ++ (scan .nothing text.toList).2.tokens = tokens) :
    Spells (ofText text) tokens := by
  obtain ⟨free, ends, computed⟩ := fixed
  intro rest more behind
  have complete : ∀ c ∈ rest.head?, (scan .nothing text.toList).2.extend c = none :=
    fun c next => of_decide_eq_true (List.all_eq_true.1 ends c (behind c next))
  rw [lex_append free, lex_of_complete _ complete, ← computed, List.append_assoc]
  rfl

/-- No token of two marks begins with these. -/
def Pending.isComplete : Pending → Bool
  | nothing => true
  | symbol marks => Token.symbols.all fun entry => entry.1.toList.dropLast ≠ marks
  | _ => false

theorem Pending.extend_of_isComplete {pending : Pending} (complete : pending.isComplete = true)
    (c : Char) : pending.extend c = none := by
  cases pending with
  | nothing => rfl
  | symbol marks =>
    have none : ¬ Token.symbols.any (fun entry => entry.1.toList = marks ++ [c]) := by
      intro found
      obtain ⟨entry, member, longer⟩ := List.any_eq_true.1 found
      have shorter := List.all_eq_true.1 complete entry member
      simp_all
    simp only [extend, none, Bool.false_eq_true, ↓reduceIte]
  | word | name | closed => simp [isComplete] at complete

theorem closes_ofText {text : String} {tokens : List Token}
    (fixed : '?' ∉ text.toList ∧ (scan .nothing text.toList).2.isComplete = true ∧
      (scan .nothing text.toList).1 ++ (scan .nothing text.toList).2.tokens = tokens) :
    Closes (ofText text) tokens := by
  obtain ⟨free, complete, computed⟩ := fixed
  intro rest more
  rw [lex_append free, lex_of_complete _ fun c _ => Pending.extend_of_isComplete complete c,
    ← computed, List.append_assoc]
  rfl

theorem closes_bound (value : Value) : Closes (.bound value) [.bound value] := by
  intro rest more
  simp [Fragment.bound, lex, Pending.extend, Pending.tokens]

theorem lex_doubled (read text rest : List Char) (values : List Value) :
    lex (.name read) (Text.doubled '"' text ++ '"' :: rest) values =
      lex (.closed (read ++ text)) rest values := by
  induction text generalizing read with
  | nil => simp [Text.doubled, lex, Pending.extend]
  | cons c text ih =>
    by_cases quote : c = '"'
    · subst quote
      simpa [Text.doubled, lex, Pending.extend] using ih (read ++ ['"'])
    · simpa [Text.doubled, quote, lex, Pending.extend] using ih (read ++ [c])

theorem spells_identifier (name : String) : Spells (.identifier name) [.name name] := by
  intro rest more ends
  have complete : ∀ c ∈ rest.head?, (Pending.closed name.toList).extend c = none := by
    intro c next
    have notQuote : c ≠ '"' := by
      rintro rfl
      exact absurd (ends '"' next) (by decide)
    simp [Pending.extend, notQuote]
  have opens (text : List Char) (values : List Value) :
      lex .nothing ('"' :: text) values = lex (.name []) text values := rfl
  simp only [Fragment.identifier, Text.quote, Text.toList_quoteWith, List.cons_append,
    List.append_assoc, List.nil_append]
  rw [opens, lex_doubled, List.nil_append, lex_of_complete _ complete]
  simp [Pending.tokens]

end Composition

end Reading

/-- All tokens of a fragment. -/
def Fragment.tokens (f : Fragment) : List Reading.Token :=
  Reading.lex .nothing f.template.toList f.bindings

end TypedSql
