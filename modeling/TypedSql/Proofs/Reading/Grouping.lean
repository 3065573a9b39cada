import TypedSql.Proofs.Reading.Spelling
import TypedSql.Proofs.Reading.Tree

/-! How a database groups an expression. Tokens are read from left to right over a stack
of operators that wait for their right operand. An operator first closes the operators on
the stack that hold as tight as it does or tighter, so of two operators around an operand
the tighter one takes it, and the left one when both are equal. From the loosest on the
levels are OR, AND, NOT, equality with its like, order, bits, sums, products,
concatenation, and the signs. -/
namespace TypedSql

/-- How tight a binary operator holds its operands. NOT stands between AND and equality. -/
def BinaryOp.level : BinaryOp → Nat
  | or => 1
  | and => 2
  | eq | notEq | is | isNot | like => 4
  | lt | ltEq | gt | gtEq => 5
  | shiftLeft | shiftRight | bitAnd | bitOr => 6
  | add | sub => 7
  | mul | div | rem => 8
  | concat => 9

def UnaryOp.level : UnaryOp → Nat
  | not => 3
  | neg | bitNot => 10

namespace Reading

/-- BETWEEN and IN hold as tight as equality. -/
def testLevel : Nat := 4

/-- Something that is read in part. -/
inductive Frame where
  | binary (left : Tree) (op : BinaryOp)
  | unary (op : UnaryOp)
  /-- BETWEEN up to its AND. -/
  | between (item low : Tree)
  /-- BETWEEN before its AND. -/
  | range (item : Tree)
  | group
  | list (negated : Bool) (item : Tree) (before : List Tree)
  | arguments (name : String) (before : List Tree)
  | aggregate (function : Aggregate) (distinct : Bool)
  | cast

namespace Frame

/-- Zero for a frame that only a token of its own closes. -/
def level : Frame → Nat
  | binary _ op => op.level
  | unary op => op.level
  | between _ _ => testLevel
  | _ => 0

/-- What a frame makes of its last operand. -/
def close : Frame → Tree → Tree
  | binary left op, t => .binary op left t
  | unary op, t => .unary op t
  | between item low, t => .between item low t
  | _, t => t

/-- The frames to which a keyword behind them may belong: AND to BETWEEN, NOT to IS. -/
def awaits : Frame → Bool
  | range _ => true
  | binary _ .is => true
  | _ => false

end Frame

/-- Closes the frames that hold an operand at least as tight as the limit. -/
def settle (limit : Nat) : List Frame → Tree → List Frame × Tree
  | [], t => ([], t)
  | f :: stack, t => if limit ≤ f.level then settle limit stack (f.close t) else (f :: stack, t)

/-- What may come next. -/
inductive Focus where
  /-- An operand. -/
  | operand
  /-- What follows an operand. -/
  | tree (t : Tree)
  /-- What follows a name: a dot, arguments, or what follows an operand. -/
  | named (path : List String)
  /-- A name behind a dot. -/
  | dotted (path : List String)
  /-- What follows a NOT behind an operand. -/
  | negated (t : Tree)
  /-- The parenthesis that opens a frame. -/
  | opening (frame : Frame)
  /-- The type behind AS. -/
  | type (item : Tree)
  /-- The parenthesis that ends an operand. -/
  | closing (t : Tree)

/-- The operand that is read. -/
def Focus.tree? : Focus → Option Tree
  | tree t => some t
  | named path => some (.column path)
  | _ => none

structure State where
  stack : List Frame
  focus : Focus

/-- Reads a token where an operand is due. -/
def operandStep (stack : List Frame) : Token → Option State
  | .name name => some ⟨stack, .named [name]⟩
  | .bound value => some ⟨stack, .tree (.bound value)⟩
  | .null => some ⟨stack, .tree .null⟩
  | .rowid => some ⟨stack, .tree (.rowid [])⟩
  | .operator .sub => some ⟨.unary .neg :: stack, .operand⟩
  | .complement => some ⟨.unary .bitNot :: stack, .operand⟩
  | .not => match stack with
    | .binary left .is :: rest => some ⟨.binary left .isNot :: rest, .operand⟩
    | stack => some ⟨.unary .not :: stack, .operand⟩
  | .opening => some ⟨.group :: stack, .operand⟩
  | .cast => some ⟨stack, .opening .cast⟩
  | .aggregate function => some ⟨stack, .opening (.aggregate function false)⟩
  | .distinct => match stack with
    | .aggregate function false :: rest => some ⟨.aggregate function true :: rest, .operand⟩
    | _ => none
  | .operator .mul => match stack with
    | .aggregate .count false :: rest => some ⟨rest, .closing .countAll⟩
    | _ => none
  | .closing => match stack with
    | .list negated item [] :: rest => some ⟨rest, .tree (.member negated item [])⟩
    | .arguments name [] :: rest => some ⟨rest, .tree (.call name [])⟩
    | _ => none
  | _ => none

/-- Reads a token behind an operand. -/
def followStep (stack : List Frame) (t : Tree) : Token → Option State
  | .operator op => match op, settle op.level stack t with
    | .and, (.range item :: rest, t) => some ⟨.between item t :: rest, .operand⟩
    | op, (stack, t) => some ⟨.binary t op :: stack, .operand⟩
  | .not => some ⟨stack, .negated t⟩
  | .oneOf =>
    let (stack, t) := settle testLevel stack t
    some ⟨stack, .opening (.list false t [])⟩
  | .between =>
    let (stack, t) := settle testLevel stack t
    some ⟨.range t :: stack, .operand⟩
  | .comma => match settle 1 stack t with
    | (.list negated item before :: rest, t) =>
      some ⟨.list negated item (before ++ [t]) :: rest, .operand⟩
    | (.arguments name before :: rest, t) =>
      some ⟨.arguments name (before ++ [t]) :: rest, .operand⟩
    | _ => none
  | .closing => match settle 1 stack t with
    | (.group :: rest, t) => some ⟨rest, .tree t⟩
    | (.list negated item before :: rest, t) =>
      some ⟨rest, .tree (.member negated item (before ++ [t]))⟩
    | (.arguments name before :: rest, t) => some ⟨rest, .tree (.call name (before ++ [t]))⟩
    | (.aggregate function distinct :: rest, t) =>
      some ⟨rest, .tree (.aggregate function distinct t)⟩
    | _ => none
  | .as => match settle 1 stack t with
    | (.cast :: rest, t) => some ⟨rest, .type t⟩
    | _ => none
  | _ => none

/-- Reads one token. -/
def step (s : State) (token : Token) : Option State :=
  match s.focus, token with
  | .operand, token => operandStep s.stack token
  | .tree t, token => followStep s.stack t token
  | .named path, .dot => some ⟨s.stack, .dotted path⟩
  | .named [name], .opening => some ⟨.arguments name [] :: s.stack, .operand⟩
  | .named path, token => followStep s.stack (.column path) token
  | .dotted path, .name name => some ⟨s.stack, .named (path ++ [name])⟩
  | .dotted path, .rowid => some ⟨s.stack, .tree (.rowid path)⟩
  | .negated t, .oneOf =>
    let (stack, t) := settle testLevel s.stack t
    some ⟨stack, .opening (.list true t [])⟩
  | .opening frame, .opening => some ⟨frame :: s.stack, .operand⟩
  | .type item, .type target => some ⟨s.stack, .closing (.cast item target)⟩
  | .closing t, .closing => some ⟨s.stack, .tree t⟩
  | _, _ => none

def run : List Token → State → Option State
  | [], s => some s
  | token :: rest, s => (step s token).bind (run rest)

/-- The expression that was read, if it is over. -/
def State.finish (s : State) : Option Tree :=
  s.focus.tree?.bind fun t => match settle 1 s.stack t with
    | ([], t) => some t
    | _ => none

/-- The expression that tokens are, if they are one. -/
def read (tokens : List Token) : Option Tree :=
  (run tokens ⟨[], .operand⟩).bind State.finish

theorem run_append (first second : List Token) (s : State) :
    run (first ++ second) s = (run first s).bind (run second) := by
  induction first generalizing s with
  | nil => rfl
  | cons token rest ih =>
    simp only [List.cons_append, run, Option.bind_assoc]
    congr 1
    funext next
    exact ih next

/-- Behind an operand, all but a dot and a parenthesis is read the same way. -/
theorem step_of_tree? {focus : Focus} {t : Tree} (found : focus.tree? = some t) {token : Token}
    (notDot : token ≠ .dot) (notOpening : token ≠ .opening) (stack : List Frame) :
    step ⟨stack, focus⟩ token = followStep stack t token := by
  cases focus with
  | tree t' =>
    obtain rfl := Option.some.inj found
    rfl
  | named path =>
    obtain rfl := Option.some.inj found
    simp only [step]
    split <;> simp_all
  | operand | dotted | negated | opening | type | closing => cases found

/-- Every frame holds at least as tight as the level. -/
def Above (level : Nat) (frames : List Frame) : Prop :=
  ∀ f ∈ frames, level ≤ f.level

/-- A stack that tokens of the level leave as it is. -/
def Rests (level : Nat) (base : List Frame) : Prop :=
  ∀ f ∈ base.head?, f.level < level ∧ f.awaits = false

theorem Rests.mono {level limit : Nat} {base : List Frame} (rests : Rests level base)
    (le : level ≤ limit) : Rests limit base :=
  fun f top => ⟨Nat.lt_of_lt_of_le (rests f top).1 le, (rests f top).2⟩

section Settle
variable {limit : Nat} {inner base : List Frame} {t : Tree}

theorem settle_of_rests (rests : Rests limit base) (t : Tree) :
    settle limit base t = (base, t) := by
  cases base with
  | nil => rfl
  | cons f stack => rw [settle, if_neg (Nat.not_le.2 (rests f rfl).1)]

theorem settle_append (rests : Rests limit base) (inner : List Frame) (t : Tree) :
    settle limit (inner ++ base) t =
      ((settle limit inner t).1 ++ base, (settle limit inner t).2) := by
  induction inner generalizing t with
  | nil => exact settle_of_rests rests t
  | cons f inner ih =>
    by_cases closes : limit ≤ f.level
    · simpa [settle, closes] using ih (f.close t)
    · simp [settle, closes]

theorem above_settle {level : Nat} (above : Above level inner) (t : Tree) :
    Above level (settle limit inner t).1 := by
  induction inner generalizing t with
  | nil => exact above
  | cons f inner ih =>
    obtain ⟨_, rest⟩ := List.forall_mem_cons.1 above
    by_cases closes : limit ≤ f.level
    · simpa [settle, closes] using ih rest (f.close t)
    · simpa [settle, closes] using above

/-- What all frames together make of an operand. -/
def closeAll (frames : List Frame) (t : Tree) : Tree :=
  frames.foldl (fun t f => f.close t) t

theorem settle_append_of_above (above : Above limit inner) (base : List Frame) (t : Tree) :
    settle limit (inner ++ base) t = settle limit base (closeAll inner t) := by
  induction inner generalizing t with
  | nil => rfl
  | cons f inner ih =>
    obtain ⟨first, rest⟩ := List.forall_mem_cons.1 above
    simpa [settle, first, closeAll] using ih rest (f.close t)

end Settle

theorem run_operator {op : BinaryOp} {focus : Focus} {t : Tree} (found : focus.tree? = some t)
    {stack : List Frame}
    (notRange : ∀ item, (settle op.level stack t).1.head? ≠ some (.range item)) :
    run op.tokens ⟨stack, focus⟩ =
      some ⟨.binary (settle op.level stack t).2 op :: (settle op.level stack t).1, .operand⟩ := by
  have follow (op : BinaryOp)
      (notRange : ∀ item, (settle op.level stack t).1.head? ≠ some (.range item)) :
      run [.operator op] ⟨stack, focus⟩ =
        some ⟨.binary (settle op.level stack t).2 op :: (settle op.level stack t).1, .operand⟩ := by
    simp only [run, step_of_tree? found (by simp : Token.operator op ≠ .dot) (by simp), followStep]
    split
    · rename_i item rest t' settled
      simp [settled] at notRange
    · simp [*]
  cases op with
  | isNot =>
    have is := follow .is notRange
    simp only [BinaryOp.tokens]
    rw [← List.singleton_append, run_append, is]
    rfl
  | _ => exact follow _ notRange

end Reading

/-- The expression that a fragment is to a database, if it is one. -/
def Fragment.read (f : Fragment) : Option Tree :=
  Reading.read f.tokens

/-- The value of an expression in a row, by its text. -/
def Expr.value? (I : Interpretation) (e : Expr) : Option Value :=
  e.fragment.read.map (Tree.value I)

end TypedSql
