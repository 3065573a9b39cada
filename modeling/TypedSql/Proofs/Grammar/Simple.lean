import TypedSql.Proofs.Grammar.Queries

namespace TypedSql

open Clauses (Lexeme)
open Fragment (ofText)

namespace Grammar

/-- Numbers, values and names, and two of these with AND or an equals sign between them. -/
inductive Simple : List Lexeme → Prop where
  | number (n : Nat) : Simple [.word (Text.decimal n)]
  | bound (value : Value) : Simple [.bound value]
  | name (text : List Char) : Simple [.quoted '"' text]
  | operation (op : Lexeme) (known : op ∈ [Lexeme.word "AND".toList, .symbol '='])
      (first : Simple a)
      (second : Simple b) : Simple (.symbol '(' :: (a ++ op :: (b ++ [.symbol ')'])))

theorem isWord_decimal {keyword : String} (letter : keyword.toList.head?.all (!·.isDigit))
    (n : Nat) :
    (Lexeme.word (Text.decimal n)).isWord keyword = false := by
  obtain ⟨c, rest, digits, digit⟩ := Text.decimal_eq_cons n
  rw [digits, Lexeme.isWord, decide_eq_false_iff_not, List.map_cons, Text.toUpper_of_isDigit digit]
  intro same
  rw [← same] at letter
  simp [digit] at letter

theorem Simple.skips {m : List Lexeme} (simple : Simple m) :
    ∀ keyword ∈ ["WHERE", "GROUP"], Skips keyword m := by
  intro keyword known
  have letter : keyword.toList.head?.all (!·.isDigit) ∧
      (Lexeme.word "AND".toList).isWord keyword = false := by
    simp only [List.mem_cons, List.not_mem_nil, or_false] at known
    rcases known with rfl | rfl <;> decide
  induction simple with
  | number n => exact skips_single (isWord_decimal letter.1 n) fun _ => rfl
  | bound value => exact skips_single rfl fun _ => rfl
  | name text => exact skips_single rfl fun _ => rfl
  | @operation a b op known _ _ first second =>
    have between : Skips keyword [op] := by
      simp only [List.mem_cons, List.not_mem_nil, or_false] at known
      rcases known with rfl | rfl
      · exact skips_single letter.2 fun _ => rfl
      · exact skips_single rfl fun _ => rfl
    simpa using (first.append (between.append second)).enclosed

theorem Simple.begins {m : List Lexeme} (simple : Simple m) : ∃ l rest, m = l :: rest ∧
    ∀ keyword ∈ ["DISTINCT", "FROM", "HAVING", "ORDER", "LIMIT"], l.isWord keyword = false := by
  cases simple with
  | number n =>
    refine ⟨_, [], rfl, fun keyword known => isWord_decimal ?_ n⟩
    simp only [List.mem_cons, List.not_mem_nil, or_false] at known
    rcases known with rfl | rfl | rfl | rfl | rfl <;> decide
  | _ => exact ⟨_, _, rfl, fun _ _ => rfl⟩

def simple : Expressions where
  forms := {m | Simple m}
  number := .number
  conjunction _ _ first second := .operation _ (by simp) first second
  skips _ form := form.skips
  begins _ form := form.begins

section Written
variable {first second : Expr}

theorem written_simple_column (name : String) : Written simple.forms (Expr.column name).fragment :=
  ⟨Fragment.balanced_quote name, Fragment.lexemes_identifier name ▸ Simple.name name.toList⟩

theorem written_simple_bound (value : Value) : Written simple.forms (Expr.bound value).fragment :=
  ⟨Fragment.balanced_bound value, Fragment.lexemes_bound value ▸ Simple.bound value⟩

theorem written_simple_equality (before : Written simple.forms first.fragment)
    (behind : Written simple.forms second.fragment) :
    Written simple.forms (Expr.binary .eq first second).fragment := by
  have sign : Fragment.Separates (" " ++ "=" ++ " ") ∧
      (ofText (" " ++ "=" ++ " ")).lexemes = [.symbol '='] := by decide
  obtain ⟨balanced, lexemes⟩ := lexemes_operation sign.1 sign.2 before.toBalanced behind.toBalanced
  refine ⟨balanced, ?_⟩
  rw [Expr.fragment, BinaryOp.symbol, lexemes]
  exact Simple.operation _ (by simp) before.belongs behind.belongs

end Written

end Grammar

end TypedSql
