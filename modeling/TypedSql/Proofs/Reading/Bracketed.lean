import TypedSql.Proofs.Reading.Wrapped

namespace TypedSql

open Reading

namespace Reading
open TypedSql.Expr (listTokens memberTokens)

/-- The names behind a name, each behind a dot. -/
def readPath : List String → List Token → List String × List Token
  | path, .dot :: .name name :: rest => readPath (path ++ [name]) rest
  | path, rest => (path, rest)

def readClosing (t : Tree) : List Token → Option (Tree × List Token)
  | .closing :: rest => some (t, rest)
  | _ => none

mutual

/-- Reads an operand. No text has more operands in each other than it has tokens. -/
def readOperand : Nat → List Token → Option (Tree × List Token)
  | depth + 1, token :: rest =>
    match token, rest with
    | .bound v, rest => some (.bound v, rest)
    | .null, rest => some (.null, rest)
    | .name name, .opening :: rest =>
      (readItems depth [] rest).map fun (items, rest) => (.call name items, rest)
    | .name name, rest =>
      let (path, rest) := readPath [name] rest
      some (.column path, rest)
    | .opening, rest => (readOperand depth rest).bind fun (left, rest) => readGroup depth left rest
    | .operator .sub, .opening :: rest =>
      (readOperand depth rest).bind fun (t, rest) => readClosing (.unary .neg t) rest
    | .not, .opening :: rest =>
      (readOperand depth rest).bind fun (t, rest) => readClosing (.unary .not t) rest
    | .complement, .opening :: rest =>
      (readOperand depth rest).bind fun (t, rest) => readClosing (.unary .bitNot t) rest
    | .aggregate function, .opening :: rest =>
      (readOperand depth rest).bind fun (t, rest) => readClosing (.aggregate function false t) rest
    | .cast, .opening :: rest =>
      (readOperand depth rest).bind fun (t, rest) =>
        match rest with
        | .as :: .type target :: rest => readClosing (.cast t target) rest
        | _ => none
    | _, _ => none
  | _, _ => none

/-- Reads the rest of a group behind its first operand. -/
def readGroup : Nat → Tree → List Token → Option (Tree × List Token)
  | depth + 1, left, token :: rest =>
    match token, rest with
    | .operator .is, .not :: .opening :: rest =>
      (readOperand depth rest).bind fun (t, rest) =>
        match rest with
        | .closing :: rest => readClosing (.binary .is left (.unary .not t)) rest
        | rest =>
          (readGroup depth t rest).bind fun (right, rest) =>
            readClosing (.binary .isNot left right) rest
    | .operator .is, .not :: rest =>
      (readOperand depth rest).bind fun (right, rest) =>
        readClosing (.binary .isNot left right) rest
    | .operator op, rest =>
      (readOperand depth rest).bind fun (right, rest) => readClosing (.binary op left right) rest
    | .oneOf, .opening :: rest =>
      (readItems depth [] rest).bind fun (items, rest) =>
        readClosing (.member false left items) rest
    | .not, .oneOf :: .opening :: rest =>
      (readItems depth [] rest).bind fun (items, rest) => readClosing (.member true left items) rest
    | _, _ => none
  | _, _, _ => none

/-- Reads the rest of a list, behind some of its items. -/
def readItems : Nat → List Tree → List Token → Option (List Tree × List Token)
  | _ + 1, [], .closing :: rest => some ([], rest)
  | depth + 1, before, tokens =>
    (readOperand depth tokens).bind fun (t, rest) =>
      match rest with
      | .comma :: rest => readItems depth (before ++ [t]) rest
      | .closing :: rest => some (before ++ [t], rest)
      | _ => none
  | _, _, _ => none

end

/-- The text goes on with neither a dot nor a parenthesis. -/
def Behind (rest : List Token) : Prop :=
  ∀ token ∈ rest.head?, token ≠ .dot ∧ token ≠ .opening

theorem readPath_names (path others : List String) {rest : List Token} (behind : Behind rest) :
    readPath path ((others.flatMap fun name => [.dot, .name name]) ++ rest) =
      (path ++ others, rest) := by
  induction others generalizing path with
  | nil =>
    cases rest with
    | nil => simp [readPath]
    | cons token rest =>
      have notDot := (behind token rfl).1
      rw [List.flatMap_nil, List.nil_append, readPath, List.append_nil]
      rintro name rest' ⟨⟩
      exact notDot rfl
  | cons name others ih => simpa [readPath] using ih (path ++ [name])

theorem readOperand_name (depth : Nat) (first : String) (others : List String) {rest : List Token}
    (behind : Behind rest) :
    readOperand (depth + 1)
      (.name first :: ((others.flatMap fun name => [.dot, .name name]) ++ rest)) =
      some (.column (first :: others), rest) := by
  have path := readPath_names [first] others behind
  have reads (tail : List Token) (noCall : tail.head? ≠ some .opening) :
      readOperand (depth + 1) (.name first :: tail) =
        some (.column (readPath [first] tail).1, (readPath [first] tail).2) := by
    cases tail with
    | nil => rfl
    | cons token tail => cases token with
      | opening => exact absurd rfl noCall
      | _ => rfl
  rw [reads, path, List.singleton_append]
  cases others with
  | nil =>
    intro call
    exact (behind _ call).2 rfl
  | cons => simp

/-- An operand is read at every depth that its tokens may need. -/
def ReadsBack (e : Expr) : Prop :=
  ∀ depth, e.tokens.length ≤ depth → ∀ rest, Behind rest →
    readOperand depth (e.tokens ++ rest) = some (e.tree, rest)

theorem readsBack_reference {e : Expr} (wrapped : e.Wrapped) (reference : e.isReference = true) :
    ReadsBack e := by
  intro depth deep rest behind
  obtain ⟨first, others, tree, tokens⟩ := wrapped.reference reference
  rw [tree]
  rw [tokens] at deep ⊢
  cases depth with
  | zero => simp at deep
  | succ depth => exact readOperand_name depth first others behind

section Groups
variable {right : Expr} (depth : Nat) (left : Tree)

theorem readGroup_is {tokens : List Token} (noNot : tokens.head? ≠ some .not) :
    readGroup (depth + 1) left (.operator .is :: tokens) =
      (readOperand depth tokens).bind fun (right, rest) =>
        readClosing (.binary .is left right) rest := by
  cases tokens with
  | nil => rfl
  | cons token tokens => cases token with
    | not => exact absurd rfl noNot
    | _ => rfl

theorem readGroup_isNot {tokens : List Token} (noOpening : tokens.head? ≠ some .opening) :
    readGroup (depth + 1) left (.operator .is :: .not :: tokens) =
      (readOperand depth tokens).bind fun (right, rest) =>
        readClosing (.binary .isNot left right) rest := by
  cases tokens with
  | nil => rfl
  | cons token tokens => cases token with
    | opening => exact absurd rfl noOpening
    | _ => rfl

theorem readGroup_closing (t : Tree) (rest : List Token) :
    readGroup depth t (.closing :: rest) = none := by
  cases depth <;> rfl

/-- A negation behind IS is read as one: its operand fills the parentheses. -/
theorem readGroup_is_negation {operand : Expr} (reads : ReadsBack (.unary .not operand))
    (deep : (Expr.unary .not operand).tokens.length ≤ depth) (rest : List Token) :
    readGroup (depth + 1)
      left (.operator .is :: ((Expr.unary .not operand).tokens ++ .closing :: rest)) =
      some (.binary .is left (.unary .not operand.tree), rest) := by
  -- read alone, the negation ends right behind its operand; here it begins with the same steps
  have alone := reads (depth + 1) (by omega) (.closing :: rest) (by simp [Behind])
  change (readOperand depth _).bind _ = _ at alone
  obtain ⟨⟨t, behind⟩, inner, closes⟩ := Option.bind_eq_some_iff.1 alone
  change (readOperand depth _).bind _ = _
  rw [inner, Option.bind_some]
  cases behind with
  | nil => cases closes
  | cons token behind =>
    cases token with
    | closing =>
      obtain ⟨⟨⟩⟩ := closes
      rfl
    | _ => cases closes

/-- A parenthesis behind IS NOT is that of the second operand if the operand begins with
one: more than one operand is inside. -/
theorem readGroup_isNot_group {body : List Token} (shape : right.tokens = .opening :: body)
    (reads : ReadsBack right) (deep : right.tokens.length ≤ depth) (rest : List Token) :
    readGroup (depth + 1) left (.operator .is :: .not :: (right.tokens ++ .closing :: rest)) =
      some (.binary .isNot left right.tree, rest) := by
  have alone := reads (depth + 1) (by omega) (.closing :: rest) (by simp [Behind])
  rw [shape] at alone ⊢
  change (readOperand depth _).bind _ = _ at alone
  obtain ⟨⟨t, behind⟩, inner, group⟩ := Option.bind_eq_some_iff.1 alone
  replace group : readGroup depth t behind = some (right.tree, .closing :: rest) := group
  change (readOperand depth _).bind _ = _
  rw [inner, Option.bind_some]
  have second : (readGroup depth t behind).bind
      (fun (right, rest) => readClosing (.binary .isNot left right) rest) =
        some (.binary .isNot left right.tree, rest) := by
    rw [group]
    rfl
  cases behind with
  | nil => exact second
  | cons token behind =>
    cases token with
    | closing =>
      rw [readGroup_closing] at group
      cases group
    | _ => exact second

theorem readGroup_operator (op : BinaryOp) (wrapped : right.Wrapped) (reads : ReadsBack right)
    (deep : right.tokens.length ≤ depth) (rest : List Token) :
    readGroup (depth + 1) left (op.tokens ++ (right.tokens ++ .closing :: rest)) =
      some (.binary op left right.tree, rest) := by
  have second := reads depth deep (.closing :: rest) (by simp [Behind])
  cases op with
  | is =>
    by_cases negation : ∃ operand, right = .unary .not operand
    · obtain ⟨operand, rfl⟩ := negation
      exact readGroup_is_negation depth left reads deep rest
    · have noNot : (right.tokens ++ .closing :: rest).head? ≠ some .not := by
        rw [List.head?_append_of_ne_nil _ wrapped.tokens_ne_nil]
        exact fun head => negation (wrapped.exists_not head)
      change readGroup (depth + 1) left (.operator .is :: (right.tokens ++ .closing :: rest)) = _
      rw [readGroup_is depth left noNot, second]
      rfl
  | isNot =>
    by_cases group : right.tokens.head? = some .opening
    · obtain ⟨body, shape⟩ := List.head?_eq_some_iff.1 group
      exact readGroup_isNot_group depth left shape reads deep rest
    · have noOpening : (right.tokens ++ .closing :: rest).head? ≠ some .opening := by
        rwa [List.head?_append_of_ne_nil _ wrapped.tokens_ne_nil]
      change readGroup (depth + 1) left
        (.operator .is :: .not :: (right.tokens ++ .closing :: rest)) = _
      rw [readGroup_isNot depth left noOpening, second]
      rfl
  | _ =>
    change (readOperand depth (right.tokens ++ .closing :: rest)).bind _ = _
    rw [second]
    rfl

end Groups

section Lists

/-- Items begin with no closing parenthesis, so a list that begins with one is empty. -/
theorem readItems_of_read {depth : Nat} (before : List Tree) {tokens : List Token}
    {read : Tree × List Token} (reads : readOperand depth tokens = some read) :
    readItems (depth + 1) before tokens =
      match read.2 with
      | .comma :: rest => readItems depth (before ++ [read.1]) rest
      | .closing :: rest => some (before ++ [read.1], rest)
      | _ => none := by
  have next : readItems (depth + 1) before tokens = (readOperand depth tokens).bind fun (t, rest) =>
      match rest with
      | .comma :: rest => readItems depth (before ++ [t]) rest
      | .closing :: rest => some (before ++ [t], rest)
      | _ => none := by
    cases tokens with
    | nil => cases before <;> rfl
    | cons token tokens =>
      cases token with
      | closing => cases depth <;> cases reads
      | _ => cases before <;> rfl
  rw [next, reads]
  rfl

theorem readItems_tokens {items : List Expr} (each : ∀ item ∈ items, ReadsBack item)
    (before : List Tree)
    (begins : items = [] → before = []) {depth : Nat}
    (deep : (listTokens (items.map Expr.tokens)).length < depth) (rest : List Token) :
    readItems depth before (listTokens (items.map Expr.tokens) ++ .closing :: rest) =
      some (before ++ items.map Expr.tree, rest) := by
  induction items generalizing before depth with
  | nil =>
    obtain rfl := begins rfl
    cases depth with
    | zero => cases deep
    | succ depth => rfl
  | cons item items ih =>
    obtain ⟨reads, others⟩ := List.forall_mem_cons.1 each
    cases depth with
    | zero => cases deep
    | succ depth =>
      cases items with
      | nil =>
        have fits : item.tokens.length ≤ depth :=
          Nat.le_of_lt_succ (by simpa [listTokens] using deep)
        have alone := reads depth fits (.closing :: rest) (by simp [Behind])
        simpa [listTokens] using readItems_of_read before alone
      | cons next items =>
        have shape : listTokens ((item :: next :: items).map Expr.tokens) =
            item.tokens ++ .comma :: listTokens ((next :: items).map Expr.tokens) := by
          simp [listTokens, List.intercalate_cons_cons]
        rw [shape] at deep ⊢
        rw [List.length_append, List.length_cons] at deep
        have first := reads depth (by omega)
          (.comma :: (listTokens ((next :: items).map Expr.tokens) ++ .closing :: rest))
            (by simp [Behind])
        have remain := ih others (before ++ [item.tree]) (by simp)
          (by omega : (listTokens ((next :: items).map Expr.tokens)).length < depth)
        rw [List.append_assoc, List.cons_append, readItems_of_read before first]
        simpa using remain

end Lists

theorem readsBack_bound (value : Value) : ReadsBack (.bound value) := by
  intro depth deep rest _
  cases depth with
  | zero => cases deep
  | succ depth => rfl

theorem readsBack_enclosed {e item : Expr} {head : Token} {make : Tree → Tree}
    (reads : ReadsBack item)
    (tokens : e.tokens = head :: .opening :: (item.tokens ++ [.closing]))
    (tree : e.tree = make item.tree)
    (opens : ∀ depth tokens, readOperand (depth + 1) (head :: .opening :: tokens) =
      (readOperand depth tokens).bind fun (t, rest) => readClosing (make t) rest) :
    ReadsBack e := by
  intro depth deep rest _
  rw [tokens] at deep ⊢
  simp only [List.length_cons, List.length_append] at deep
  obtain ⟨depth, rfl⟩ : ∃ d, depth = d + 1 := ⟨depth - 1, by omega⟩
  have inner := reads depth (by omega) (.closing :: rest) (by simp [Behind])
  rw [List.cons_append, List.cons_append, opens, List.append_assoc, List.singleton_append,
    inner, tree]
  rfl

/-- Reading gives back every wrapped expression, and ends where it ends. -/
theorem readsBack {e : Expr} (wrapped : e.Wrapped) : ReadsBack e := by
  induction wrapped with
  | column name => exact readsBack_reference (.column name) rfl
  | qualified table reference inner =>
    exact readsBack_reference (.qualified table reference inner) rfl
  | bound value => exact readsBack_bound value
  | null =>
    intro depth deep rest _
    cases depth with
    | zero => cases deep
    | succ depth => rfl
  | @binary left right op _ second firstReads secondReads =>
    intro depth deep rest _
    simp only [Expr.tokens, List.length_cons, List.length_append, List.length_nil] at deep
    obtain ⟨depth, rfl⟩ : ∃ d, depth = d + 2 := ⟨depth - 2, by omega⟩
    have behind : Behind (op.tokens ++ (right.tokens ++ .closing :: rest)) := by
      cases op <;> simp [Behind, BinaryOp.tokens]
    have first := firstReads (depth + 1) (by omega) _ behind
    have group := readGroup_operator depth left.tree op second secondReads (by omega) rest
    simp only [Expr.tokens, List.cons_append, List.append_assoc, List.nil_append]
    change (readOperand (depth + 1) _).bind _ = _
    rw [first]
    exact group
  | unary op _ ih =>
    cases op <;> exact readsBack_enclosed ih rfl rfl fun _ _ => rfl
  | @member item negated values _ ih =>
    intro depth deep rest _
    have shape : (values.map fun value => [Token.bound value]) =
        (values.map Expr.bound).map Expr.tokens := by
      rw [List.map_map]
      rfl
    simp only [Expr.tokens, List.length_cons, List.length_append, List.length_nil, shape] at deep
    obtain ⟨depth, rfl⟩ : ∃ d, depth = d + 2 := ⟨depth - 2, by omega⟩
    have behind (tail : List Token) : Behind (memberTokens negated ++ tail) := by
      cases negated <;> simp [Behind, memberTokens]
    have first := ih (depth + 1) (by omega) _ (behind (.opening ::
      (listTokens ((values.map Expr.bound).map Expr.tokens) ++ .closing :: .closing :: rest)))
    have each : ∀ item ∈ values.map Expr.bound, ReadsBack item := by
      simp [readsBack_bound]
    have items := readItems_tokens each [] (fun _ => rfl) (by omega : _ < depth) (.closing :: rest)
    have trees : (values.map Expr.bound).map Expr.tree = values.map .bound := by
      rw [List.map_map]
      rfl
    rw [trees, List.nil_append] at items
    simp only [Expr.tokens, shape, List.cons_append, List.append_assoc, List.nil_append]
    change (readOperand (depth + 1) _).bind _ = _
    rw [first]
    cases negated <;>
    · change (readItems depth [] _).bind _ = _
      rw [items]
      rfl
  | @aggregate item function inner ih =>
    exact readsBack_enclosed ih rfl (inner.tree_aggregate function) fun _ _ => rfl
  | @cast item target _ ih =>
    intro depth deep rest _
    simp only [Expr.tokens, List.length_cons, List.length_append] at deep
    obtain ⟨depth, rfl⟩ : ∃ d, depth = d + 1 := ⟨depth - 1, by omega⟩
    have inner := ih depth (by omega) (.as :: .type target :: .closing :: rest) (by simp [Behind])
    simp only [Expr.tokens, List.cons_append, List.append_assoc, List.nil_append]
    change (readOperand depth _).bind _ = _
    rw [inner]
    rfl
  | @call arguments name _ ih =>
    intro depth deep rest _
    rw [Expr.tokens, Expr.tokensAll_eq_map] at deep ⊢
    simp only [List.length_cons, List.length_append] at deep
    obtain ⟨depth, rfl⟩ : ∃ d, depth = d + 1 := ⟨depth - 1, by omega⟩
    have items := readItems_tokens ih [] (fun _ => rfl) (by omega : _ < depth) rest
    simp only [List.cons_append, List.append_assoc, List.nil_append]
    change (readItems depth [] _).map _ = _
    rw [items, Expr.tree, Expr.trees_eq_map]
    rfl

end Reading

/-- The wrapped expression that a fragment is the text of, if it is one. -/
def Fragment.readBracketed (f : Fragment) : Option Tree :=
  match readOperand f.tokens.length f.tokens with
  | some (t, []) => some t
  | _ => none

theorem Expr.Wrapped.readBracketed {e : Expr} (wrapped : e.Wrapped) :
    e.fragment.readBracketed = some e.tree := by
  have reads := readsBack wrapped e.tokens.length (Nat.le_refl _) [] (by simp [Behind])
  rw [List.append_nil] at reads
  rw [Fragment.readBracketed, tokens_fragment wrapped.plain, reads]

end TypedSql
