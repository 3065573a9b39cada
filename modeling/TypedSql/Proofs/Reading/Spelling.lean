import TypedSql.Proofs.Reading.Token

namespace TypedSql

open Reading
open Fragment (ofText)

/-- The names that refer to a table, from the outermost one on. -/
def TableRef.path (t : TableRef) : List String :=
  match t.label with
  | none => t.schema.toList ++ [t.name]
  | some label => [label]

def BinaryOp.tokens : BinaryOp → List Token
  | isNot => [.operator .is, .not]
  | op => [.operator op]

def UnaryOp.token : UnaryOp → Token
  | neg => .operator .sub
  | not => .not
  | bitNot => .complement

namespace Expr

def memberTokens (negated : Bool) : List Token :=
  if negated then [.not, .oneOf] else [.oneOf]

/-- Token lists with commas between them. -/
def listTokens (items : List (List Token)) : List Token :=
  [Token.comma].intercalate items

def testTokens (item : List Token) (op : BinaryOp) (bound : Value) : List Token :=
  item ++ .operator op :: [.bound bound]

def intervalTokens (item : List Token) : Interval Value → List Token
  | .closed low high => item ++ [.between, .bound low, .operator .and, .bound high]
  | .halfOpen low high =>
    testTokens item .gtEq low ++ .operator .and :: testTokens item .lt high
  | .atMost high => testTokens item .ltEq high
  | .below high => testTokens item .lt high
  | .atLeast low => testTokens item .gtEq low

mutual

/-- The tokens of an expression without text from outside. -/
def tokens : Expr → List Token
  | column name => [.name name]
  | qualified table item => (table.path.flatMap fun name => [.name name, .dot]) ++ item.tokens
  | bound value => [.bound value]
  | null => [.null]
  | rowid => [.rowid]
  | countAll => [.aggregate .count, .opening, .operator .mul, .closing]
  | binary op left right => .opening :: (left.tokens ++ op.tokens ++ right.tokens ++ [.closing])
  | unary op operand => op.token :: .opening :: (operand.tokens ++ [.closing])
  | member negated item values =>
    .opening :: (item.tokens ++ memberTokens negated ++
      .opening :: (listTokens (values.map fun value => [.bound value]) ++ [.closing, .closing]))
  | within item interval => intervalTokens item.tokens interval
  | aggregate function item => .aggregate function :: .opening :: (item.tokens ++ [.closing])
  | distinct item => .distinct :: item.tokens
  | cast item target => .cast :: .opening :: (item.tokens ++ [.as, .type target, .closing])
  | call name arguments =>
    .name name :: .opening :: (listTokens (tokensAll arguments) ++ [.closing])
  | star | ordered _ _ | raw _ | joined _ _ | operation _ _ _ _ | wrap _ _ => []

def tokensAll : List Expr → List (List Token)
  | [] => []
  | item :: rest => item.tokens :: tokensAll rest

end

theorem tokensAll_eq_map (items : List Expr) : tokensAll items = items.map tokens := by
  induction items with
  | nil => rfl
  | cons item rest ih => simp [tokensAll, ih]

/-- The expressions that a name of a table may stand before. -/
def isReference : Expr → Bool
  | column _ | qualified _ _ | rowid => true
  | _ => false

/-- The expressions that stand for a value of a row or a group: no text from outside, no
star and no ordering term, names of tables before names only, and DISTINCT only right
inside an aggregate. -/
inductive Plain : Expr → Prop where
  | column (name : String) : Plain (.column name)
  | qualified (table : TableRef) (reference : item.isReference = true) (inner : Plain item) :
      Plain (.qualified table item)
  | bound (value : Value) : Plain (.bound value)
  | null : Plain .null
  | rowid : Plain .rowid
  | countAll : Plain .countAll
  | binary (op : BinaryOp) (first : Plain left)
      (second : Plain right) : Plain (.binary op left right)
  | unary (op : UnaryOp) (inner : Plain operand) : Plain (.unary op operand)
  | member (negated : Bool) (values : List Value) (inner : Plain item) :
      Plain (.member negated item values)
  | within (interval : Interval Value) (inner : Plain item) : Plain (.within item interval)
  | aggregate (function : Aggregate) (inner : Plain item) : Plain (.aggregate function item)
  | aggregateDistinct (function : Aggregate) (inner : Plain item) :
      Plain (.aggregate function (.distinct item))
  | cast (target : DeclaredType) (inner : Plain item) : Plain (.cast item target)
  | call (name : String) (each : ∀ argument ∈ arguments, Plain argument) :
      Plain (.call name arguments)

end Expr

namespace Reading
open TypedSql.Expr (testTokens intervalTokens memberTokens listTokens)

theorem closes_opening : Closes (ofText "(") [.opening] :=
  closes_ofText (by decide +kernel)

theorem closes_closing : Closes (ofText ")") [.closing] :=
  closes_ofText (by decide +kernel)

theorem closes_comma : Closes (ofText ", ") [.comma] :=
  closes_ofText (by decide +kernel)

theorem closes_dot : Closes (ofText ".") [.dot] :=
  closes_ofText (by decide +kernel)

theorem closes_symbol (op : BinaryOp) : Closes (ofText (" " ++ op.symbol ++ " ")) op.tokens := by
  cases op <;> exact closes_ofText (by decide +kernel)

section Parts
variable {f g : Fragment} {first second : List Token}

theorem append_assoc (f g h : Fragment) : f ++ g ++ h = f ++ (g ++ h) := by
  ext1 <;> simp [String.append_assoc]

theorem Spells.append_text {text : String} (spells : Spells f first)
    (behind : Closes (ofText text) second)
    (begins : text.toList.head?.any (· ∈ apart)) : Closes (f ++ ofText text) (first ++ second) :=
  spells.append_closes behind begins

theorem Spells.wrap (head : String) {opening : List Token}
    (heads : Closes (ofText (head ++ "(")) opening) (spells : Spells f first) :
    Closes (.wrap head f) (opening ++ (first ++ [.closing])) := by
  have shape : Fragment.wrap head f = ofText (head ++ "(") ++ (f ++ ofText ")") := by
    ext1 <;> simp [String.append_assoc]
  rw [shape]
  exact heads.append (spells.append_text closes_closing (by decide))

theorem Spells.operation {op : String} {between : List Token}
    (symbol : Closes (ofText (" " ++ op ++ " ")) between) (left : Spells f first)
    (right : Spells g second) :
    Spells (.operation op f g false) (first ++ between ++ second) := by
  have shape : Fragment.operation op f g false = (f ++ ofText (" " ++ op ++ " ")) ++ g := by
    ext1 <;> simp [Fragment.operation, String.append_assoc]
  have begins : (" " ++ op ++ " ").toList.head?.any (· ∈ apart) := by
    simp [apart]
  rw [shape]
  exact (left.append_text symbol begins).append_spells right

theorem Spells.join {parts : List Fragment} {tokens : List (List Token)}
    (each : List.Forall₂ Spells parts tokens) :
    Spells (.join ", " parts) (listTokens tokens) := by
  induction each with
  | nil =>
    intro rest more _
    rfl
  | cons one others ih =>
    cases others with
    | nil => simpa [Fragment.join, listTokens] using one
    | cons next others =>
      rw [Fragment.join_cons_cons, ← append_assoc]
      have both := (one.append_text closes_comma (by decide)).append_spells ih
      simpa [listTokens, List.intercalate_cons_cons] using both

theorem Spells.test (spells : Spells f first) (op : BinaryOp) (single : op.tokens = [.operator op])
    (bound : Value) :
    Spells (.operation op.symbol f (.bound bound) false) (testTokens first op bound) := by
  have whole := spells.operation (closes_symbol op) (closes_bound bound).spells
  simpa [testTokens, single] using whole

theorem Spells.interval (spells : Spells f first) (interval : Interval Value) :
    Spells (Expr.intervalTest f interval) (intervalTokens first interval) := by
  rw [Expr.intervalTest_eq]
  cases interval with
  | closed low high =>
    have word : Closes (ofText (" " ++ "BETWEEN" ++ " ")) [.between] :=
      closes_ofText (by decide +kernel)
    have bounds : Spells (.operation "AND" (.bound low) (.bound high) false)
        [.bound low, .operator .and, .bound high] :=
      (closes_bound low).spells.operation (closes_symbol .and) (closes_bound high).spells
    simpa [intervalTokens] using spells.operation word bounds
  | halfOpen low high =>
    have both :=
      (spells.test .gtEq rfl low).operation (closes_symbol .and) (spells.test .lt rfl high)
    rw [List.append_assoc] at both
    exact both
  | atMost high => exact spells.test .ltEq rfl high
  | below high => exact spells.test .lt rfl high
  | atLeast low => exact spells.test .gtEq rfl low

theorem closes_reference (table : TableRef) :
    Closes (table.reference ++ ofText ".") (table.path.flatMap fun name => [.name name, .dot]) := by
  have one (name : String) : Closes (.identifier name ++ ofText ".") [.name name, .dot] :=
    (spells_identifier name).append_text closes_dot (by decide)
  obtain ⟨name, label, schema⟩ := table
  cases label with
  | some label => exact one label
  | none =>
    cases schema with
    | none => exact one name
    | some schema =>
      have shape : TableRef.reference ⟨name, none, some schema⟩ ++ ofText "." =
          (.identifier schema ++ ofText ".") ++ (.identifier name ++ ofText ".") := by
        ext1 <;>
          simp [TableRef.reference, TableRef.qualifiedName, Fragment.identifier,
            String.append_assoc]
      rw [shape]
      exact (one schema).append (one name)

end Parts

/-- The text of an expression has the tokens of the expression. -/
theorem spells_fragment {e : Expr} (plain : e.Plain) : Spells e.fragment e.tokens := by
  induction plain with
  | column name => exact spells_identifier name
  | @qualified item table reference inner ih =>
    have shape : (Expr.qualified table item).fragment =
        (table.reference ++ ofText ".") ++ item.fragment := by
      ext1 <;> simp [Expr.fragment, String.append_assoc]
    rw [shape, Expr.tokens]
    exact (closes_reference table).append_spells ih
  | bound value => exact (closes_bound value).spells
  | null => exact spells_ofText (by decide +kernel)
  | rowid => exact spells_ofText (by decide +kernel)
  | countAll => exact (closes_ofText (by decide +kernel) : Closes (ofText "count(*)") _).spells
  | binary op first second firstSpells secondSpells =>
    have bare := firstSpells.operation (closes_symbol op) secondSpells
    have wrapped := (Spells.wrap "" closes_opening bare).spells
    simpa [Expr.fragment, Expr.tokens, Fragment.operation] using wrapped
  | unary op inner ih =>
    have heads : Closes (ofText (op.head ++ "(")) [op.token, .opening] := by
      cases op <;> exact closes_ofText (by decide +kernel)
    simpa [Expr.fragment, Expr.tokens] using (Spells.wrap _ heads ih).spells
  | member negated values inner ih =>
    have word : Closes (ofText (" " ++ (if negated then "NOT IN" else "IN") ++ " "))
        (memberTokens negated) := by
      cases negated <;> exact closes_ofText (by decide +kernel)
    have each : List.Forall₂ Spells (values.map .bound)
        (values.map fun value => [.bound value]) := by
      rw [List.forall₂_map_left_iff, List.forall₂_map_right_iff, List.forall₂_same]
      exact fun value _ => (closes_bound value).spells
    have list := (Spells.wrap "" closes_opening (.join each)).spells
    have wrapped := (Spells.wrap "" closes_opening (ih.operation word list)).spells
    simpa [Expr.fragment, Expr.tokens, Fragment.operation] using wrapped
  | within interval inner ih => exact ih.interval interval
  | aggregate function inner ih =>
    have heads : Closes (ofText (function.name ++ "(")) [.aggregate function, .opening] := by
      cases function <;> exact closes_ofText (by decide +kernel)
    simpa [Expr.fragment, Expr.tokens] using (Spells.wrap _ heads ih).spells
  | @aggregateDistinct item function inner ih =>
    have heads : Closes (ofText (function.name ++ "(DISTINCT "))
        [.aggregate function, .opening, .distinct] := by
      cases function <;> exact closes_ofText (by decide +kernel)
    have shape : (Expr.aggregate function (.distinct item)).fragment =
        ofText (function.name ++ "(DISTINCT ") ++ (item.fragment ++ ofText ")") := by
      ext1 <;> simp [Expr.fragment, ← String.toList_inj]
    rw [shape]
    simpa [Expr.tokens] using (heads.append (ih.append_text closes_closing (by decide))).spells
  | @cast item target inner ih =>
    have head : Closes (ofText "CAST(") [.cast, .opening] := closes_ofText (by decide +kernel)
    have tail : Closes (ofText (" AS " ++ target.keyword ++ ")"))
        [.as, .type target, .closing] := by
      cases target <;> exact closes_ofText (by decide +kernel)
    have begins : (" AS " ++ target.keyword ++ ")").toList.head?.any (· ∈ apart) := by
      cases target <;> decide
    have shape : (Expr.cast item target).fragment =
        ofText "CAST(" ++ (item.fragment ++ ofText (" AS " ++ target.keyword ++ ")")) := by
      ext1 <;> simp [Expr.fragment, ← String.toList_inj]
    rw [shape]
    simpa [Expr.tokens] using (head.append (ih.append_text tail begins)).spells
  | @call arguments name each ih =>
    have heads : Closes (ofText (Text.quote name ++ "(")) [.name name, .opening] := by
      have shape : ofText (Text.quote name ++ "(") = .identifier name ++ ofText "(" := by
        ext1 <;> simp [Fragment.identifier]
      rw [shape]
      exact (spells_identifier name).append_text closes_opening (by decide)
    have listed : List.Forall₂ Spells (Expr.fragments arguments) (Expr.tokensAll arguments) := by
      rw [Expr.fragments_eq_map, Expr.tokensAll_eq_map, List.forall₂_map_left_iff,
        List.forall₂_map_right_iff, List.forall₂_same]
      exact ih
    simpa [Expr.fragment, Expr.tokens] using (Spells.wrap _ heads (.join listed)).spells

theorem tokens_fragment {e : Expr} (plain : e.Plain) : e.fragment.tokens = e.tokens :=
  (spells_fragment plain).tokens_eq

end Reading

end TypedSql
