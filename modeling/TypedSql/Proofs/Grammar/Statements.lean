import Mathlib.Computability.Language
import Mathlib.Order.CompletePartialOrder
import TypedSql.Proofs.Clauses.Contained

/-! The grammar of statements on one table, over the lexemes of their text. Each clause is a
language, a statement is a sequence of clauses, and the language of expressions is left
open but for what the statements rely on: where an expression ends and a clause begins
can be told from its words. -/
namespace TypedSql.Grammar

open Clauses (Lexeme)
open scoped Computability

/-- A keyword, in either case. -/
def word (keyword : String) : Language Lexeme :=
  {m | ∃ l : Lexeme, m = [l] ∧ l.isWord keyword = true}

/-- One of several keywords. -/
def oneOf (keywords : List String) : Language Lexeme :=
  {m | ∃ keyword ∈ keywords, m ∈ word keyword}

def mark (c : Char) : Language Lexeme :=
  {m | m = [.symbol c]}

/-- A name between double quotes. -/
def name : Language Lexeme :=
  {m | ∃ text, m = [.quoted '"' text]}

def optional (L : Language Lexeme) : Language Lexeme :=
  1 + L

/-- One item or several with commas between them. -/
def listed (L : Language Lexeme) : Language Lexeme :=
  L * (mark ',' * L)∗

def enclosed (L : Language Lexeme) : Language Lexeme :=
  {m | ∃ inner ∈ L, m = .symbol '(' :: (inner ++ [.symbol ')'])}

/-- The number of open parentheses behind a lexeme, where a keyword may not stand outside of
parentheses. -/
def depthPast (keyword : String) (depth : Nat) (l : Lexeme) : Option Nat :=
  if depth = 0 ∧ l.isWord keyword = true then none else l.depthAfter depth

/-- Wherever the text stands it closes what it opens, and it has no such word outside of
parentheses. -/
def Skips (keyword : String) (m : List Lexeme) : Prop :=
  ∀ depth, m.foldlM (depthPast keyword) depth = some depth

/-- A language of expressions. -/
structure Expressions where
  forms : Language Lexeme
  number (n : Nat) : [.word (Text.decimal n)] ∈ forms
  conjunction (a b : List Lexeme) : a ∈ forms → b ∈ forms →
    .symbol '(' :: (a ++ .word "AND".toList :: (b ++ [.symbol ')'])) ∈ forms
  /-- WHERE and GROUP belong to a statement. -/
  skips (a : List Lexeme) : a ∈ forms → ∀ keyword ∈ ["WHERE", "GROUP"], Skips keyword a
  /-- What an expression cannot begin with. -/
  begins (a : List Lexeme) : a ∈ forms → ∃ l rest, a = l :: rest ∧
    ∀ keyword ∈ ["DISTINCT", "FROM", "HAVING", "ORDER", "LIMIT"], l.isWord keyword = false

namespace Expressions
variable (E : Expressions)

/-- A table by its names, with the label that it goes by. -/
def source : Language Lexeme :=
  [optional (name * mark '.') * name, optional (word "AS" * name)].prod

/-- Every column, every column of a table, or an expression with the name that it goes by. -/
def resultColumn : Language Lexeme :=
  mark '*' + (name * (mark '.' * mark '*') + E.forms * optional (optional (word "AS") * name))

def orderingTerm : Language Lexeme :=
  E.forms * optional (oneOf ["ASC", "DESC"])

def selection : Language Lexeme :=
  [word "SELECT" * optional (oneOf ["DISTINCT", "ALL"]), listed E.resultColumn, word "FROM",
    source].prod

def join : Language Lexeme :=
  [(oneOf ["CROSS", "INNER"] + word "LEFT" * optional (word "OUTER")) * word "JOIN", source,
    word "ON", E.forms].prod

def whereClause : Language Lexeme :=
  [word "WHERE", E.forms].prod

def groupClause : Language Lexeme :=
  [word "GROUP" * word "BY", listed E.forms, optional [word "HAVING", E.forms].prod].prod

def orderClause : Language Lexeme :=
  [word "ORDER" * word "BY", listed E.orderingTerm].prod

def limitClause : Language Lexeme :=
  [word "LIMIT", E.forms, optional [word "OFFSET", E.forms].prod].prod

/-- What becomes of a row that breaks a constraint. -/
def onConflict : Language Lexeme :=
  word "OR" * oneOf ["REPLACE", "ROLLBACK", "ABORT", "FAIL", "IGNORE"]

/-- A SELECT statement without WITH, VALUES or a window. -/
def select : Language Lexeme :=
  [E.selection, E.join∗, optional E.whereClause, optional E.groupClause, optional E.orderClause,
    optional E.limitClause].prod

/-- An INSERT statement of rows of values. -/
def insert : Language Lexeme :=
  [word "INSERT", optional onConflict, word "INTO", source, optional (enclosed (listed name)),
    word "VALUES", listed (enclosed (listed E.forms))].prod

/-- An UPDATE statement, with an order and a limit. -/
def update : Language Lexeme :=
  [word "UPDATE", optional onConflict, source, word "SET", listed [name, mark '=', E.forms].prod,
    optional E.whereClause, optional E.orderClause, optional E.limitClause].prod

/-- A DELETE statement, with an order and a limit. -/
def delete : Language Lexeme :=
  [word "DELETE" * word "FROM", source, optional E.whereClause, optional E.orderClause,
    optional E.limitClause].prod

end Expressions

end TypedSql.Grammar
