import TypedSql.Proofs.Reading.Operands

namespace TypedSql

open Reading

/-- A reference with more table names before it. -/
def Tree.under (path : List String) : Tree → Tree
  | column names => .column (path ++ names)
  | rowid names => .rowid (path ++ names)
  | t => t

namespace Tree

mutual

/-- The text of a tree, with parentheses around every operator of two operands. -/
def fragment : Tree → Fragment
  | column path => .join "." (path.map .identifier)
  | rowid path => .join "." (path.map .identifier ++ [{ template := "ROWID" }])
  | bound value => .bound value
  | null => { template := "NULL" }
  | countAll => { template := "count(*)" }
  | binary op left right => .operation op.symbol left.fragment right.fragment true
  | unary op operand => .wrap op.head operand.fragment
  | between item low high =>
    .operation "BETWEEN" item.fragment (.operation "AND" low.fragment high.fragment false) true
  | member negated item values =>
    .operation (if negated then "NOT IN" else "IN") item.fragment
      (.wrap "" (.join ", " (fragments values))) true
  | aggregate function false item => .wrap function.name item.fragment
  | aggregate function true item =>
    .wrap function.name { item.fragment with template := "DISTINCT " ++ item.fragment.template }
  | call name arguments => .wrap (Text.quote name) (.join ", " (fragments arguments))
  | cast item target =>
    { item.fragment with
      template := "CAST(" ++ item.fragment.template ++ " AS " ++ target.keyword ++ ")" }

def fragments : List Tree → List Fragment
  | [] => []
  | item :: rest => item.fragment :: fragments rest

end

theorem fragments_eq_map (items : List Tree) : fragments items = items.map fragment := by
  induction items with
  | nil => rfl
  | cons item rest ih => simp [fragments, ih]

end Tree

namespace Expr

mutual

/-- An expression with its grouping, where references are the names that they are spelled
with. Text from outside, a star and an ordering term are no values and have none. -/
def tree : Expr → Tree
  | column name => .column [name]
  | qualified table item => item.tree.under table.path
  | bound value => .bound value
  | null => .null
  | rowid => .rowid []
  | countAll => .countAll
  | binary op left right => .binary op left.tree right.tree
  | unary op operand => .unary op operand.tree
  | member negated item values => .member negated item.tree (values.map .bound)
  | within item interval => item.tree.test interval
  | aggregate function (.distinct item) => .aggregate function true item.tree
  | aggregate function item => .aggregate function false item.tree
  | cast item target => .cast item.tree target
  | call name arguments => .call name (trees arguments)
  | star | distinct _ | ordered _ _ | raw _ | joined _ _ | operation _ _ _ _ | wrap _ _ => .null

def trees : List Expr → List Tree
  | [] => []
  | item :: rest => item.tree :: trees rest

end

theorem trees_eq_map (items : List Expr) : trees items = items.map tree := by
  induction items with
  | nil => rfl
  | cons item rest ih => simp [trees, ih]

/-- The expressions over column references, values and NULL in which every operator of two
operands has parentheses. -/
inductive Wrapped : Expr → Prop where
  | column (name : String) : Wrapped (.column name)
  | qualified (table : TableRef) (reference : item.isReference = true) (inner : Wrapped item) :
      Wrapped (.qualified table item)
  | bound (value : Value) : Wrapped (.bound value)
  | null : Wrapped .null
  | binary (op : BinaryOp) (first : Wrapped left)
      (second : Wrapped right) : Wrapped (.binary op left right)
  | unary (op : UnaryOp) (inner : Wrapped operand) : Wrapped (.unary op operand)
  | member (negated : Bool) (values : List Value)
      (inner : Wrapped item) : Wrapped (.member negated item values)
  | aggregate (function : Aggregate) (inner : Wrapped item) : Wrapped (.aggregate function item)
  | cast (target : DeclaredType) (inner : Wrapped item) : Wrapped (.cast item target)
  | call (name : String)
      (each : ∀ argument ∈ arguments, Wrapped argument) : Wrapped (.call name arguments)

theorem Wrapped.plain {e : Expr} (wrapped : e.Wrapped) : e.Plain := by
  induction wrapped with
  | column name => exact .column name
  | qualified table reference _ ih => exact .qualified table reference ih
  | bound value => exact .bound value
  | null => exact .null
  | binary op _ _ first second => exact .binary op first second
  | unary op _ ih => exact .unary op ih
  | member negated values _ ih => exact .member negated values ih
  | aggregate function _ ih => exact .aggregate function ih
  | cast target _ ih => exact .cast target ih
  | call name _ ih => exact .call name ih

theorem Wrapped.tree_aggregate {item : Expr} (wrapped : item.Wrapped) (function : Aggregate) :
    (Expr.aggregate function item).tree = .aggregate function false item.tree := by
  cases wrapped <;> rfl

theorem Wrapped.reference {e : Expr} (wrapped : e.Wrapped) (reference : e.isReference = true) :
    ∃ first others, e.tree = .column (first :: others) ∧
      e.tokens = .name first :: others.flatMap fun name => [.dot, .name name] := by
  induction wrapped with
  | column name => exact ⟨name, [], rfl, rfl⟩
  | @qualified item table inner _ ih =>
    obtain ⟨last, others, tree, tokens⟩ := ih inner
    obtain ⟨first, rest, path⟩ := table.path_eq_cons
    have dots (rest : List String) (first : String) :
        ((first :: rest).flatMap fun name => [Token.name name, .dot]) ++ [.name last] =
          .name first :: (rest ++ [last]).flatMap fun name => [.dot, .name name] := by
      induction rest generalizing first with
      | nil => rfl
      | cons next rest ih => simpa using ih next
    refine ⟨first, rest ++ last :: others, by simp [Expr.tree, tree, Tree.under, path], ?_⟩
    rw [Expr.tokens, tokens, path]
    simpa using congrArg (· ++ others.flatMap fun name => [.dot, .name name]) (dots rest first)
  | _ => cases reference

theorem Wrapped.tokens_ne_nil {e : Expr} (wrapped : e.Wrapped) : e.tokens ≠ [] := by
  cases wrapped with
  | qualified table reference inner =>
    obtain ⟨first, others, _, tokens⟩ := (Wrapped.qualified table reference inner).reference rfl
    simp [tokens]
  | _ => simp [tokens]

/-- Only a negation begins with NOT. -/
theorem Wrapped.exists_not {e : Expr} (wrapped : e.Wrapped) (head : e.tokens.head? = some .not) :
    ∃ operand, e = .unary .not operand := by
  cases wrapped with
  | qualified table reference inner =>
    obtain ⟨first, others, _, tokens⟩ := (Wrapped.qualified table reference inner).reference rfl
    simp [tokens] at head
  | @unary operand op => cases op with
    | not => exact ⟨operand, rfl⟩
    | neg | bitNot => simp [tokens, UnaryOp.token] at head
  | _ => simp [tokens] at head

end Expr

end TypedSql
