import TypedSql.Proofs.Reading.Holding

namespace TypedSql

open Reading

theorem TableRef.path_eq_cons (table : TableRef) : ∃ first rest, table.path = first :: rest := by
  obtain ⟨name, label, schema⟩ := table
  cases label with
  | some label => exact ⟨label, [], rfl⟩
  | none => cases schema with
    | some schema => exact ⟨schema, [name], rfl⟩
    | none => exact ⟨name, [], rfl⟩

namespace Reading

theorem run_path (names path : List String) (stack : List Frame) (rest : List Token) :
    run ((names.flatMap fun name => [.name name, .dot]) ++ rest) ⟨stack, .dotted path⟩ =
      run rest ⟨stack, .dotted (path ++ names)⟩ := by
  induction names generalizing path with
  | nil => simp
  | cons name names ih =>
    have next := ih (path ++ [name])
    rw [List.append_assoc, List.singleton_append] at next
    exact next

theorem run_reference {e : Expr} (plain : e.Plain) (reference : e.isReference = true)
    (path : List String) :
    ∃ focus t, focus.tree? = some t ∧
      ∀ stack, run e.tokens ⟨stack, .dotted path⟩ = some ⟨stack, focus⟩ := by
  induction plain generalizing path with
  | column name => exact ⟨.named (path ++ [name]), _, rfl, fun _ => rfl⟩
  | rowid => exact ⟨.tree (.rowid path), _, rfl, fun _ => rfl⟩
  | qualified table inner _ ih =>
    obtain ⟨focus, t, found, reads⟩ := ih inner (path ++ table.path)
    exact ⟨focus, t, found, fun stack => by rw [Expr.tokens, run_path, reads]⟩
  | _ => cases reference

theorem stands_qualified {item : Expr} (table : TableRef) (reference : item.isReference = true)
    (inner : item.Plain) : ∃ t, Stands (Expr.qualified table item).tokens t := by
  obtain ⟨first, rest, path⟩ := table.path_eq_cons
  obtain ⟨focus, t, found, reads⟩ := run_reference inner reference table.path
  refine ⟨t, focus, found, fun stack => ?_⟩
  have names := run_path rest [first] stack item.tokens
  rw [List.singleton_append, ← path, reads] at names
  rw [Expr.tokens, path]
  exact names

section Enclosed
variable {left right : Nat} {ts : List Token} {t : Tree}

theorem Holds.aggregate (holds : Holds left right ts t) (before : 1 ≤ left) (behind : 1 ≤ right)
    (function : Aggregate) :
    Stands (.aggregate function :: .opening :: (ts ++ [.closing])) (.aggregate function false t) :=
  ⟨.tree _, rfl, fun stack => holds.enclosed before behind rfl rfl stack (by simp) []⟩

theorem Holds.aggregateDistinct (holds : Holds left right ts t) (before : 1 ≤ left)
    (behind : 1 ≤ right) (function : Aggregate) :
    Stands (.aggregate function :: .opening :: .distinct :: (ts ++ [.closing]))
      (.aggregate function true t) :=
  ⟨.tree _, rfl, fun stack => holds.enclosed before behind rfl rfl stack (by simp) []⟩

theorem Holds.cast (holds : Holds left right ts t) (before : 1 ≤ left) (behind : 1 ≤ right)
    (target : DeclaredType) :
    Stands (.cast :: .opening :: (ts ++ [.as, .type target, .closing])) (.cast t target) :=
  ⟨.tree _, rfl, fun stack =>
    holds.enclosed before behind rfl rfl stack (by simp) [.type target, .closing]⟩

theorem stands_call (name : String) {items : List (List Token)} {trees : List Tree}
    (each : List.Forall₂ (Holds 1 1) items trees) :
    Stands (.name name :: .opening :: (Expr.listTokens items ++ [.closing])) (.call name trees) :=
  ⟨.tree _, rfl, fun stack => (collects_arguments name).run_items each [] (fun _ => rfl) stack []⟩

end Enclosed

theorem continues_tokens {e : Expr} (plain : e.Plain) :
    Continues e.leftLevel e.rightLevel e.tokens := by
  induction plain with
  | column name => exact Stands.continues ⟨.named [name], rfl, fun _ => rfl⟩ _ _
  | qualified table reference inner =>
    obtain ⟨t, stands⟩ := stands_qualified table reference inner
    exact stands.continues _ _
  | bound value => exact (stands_bound value).continues _ _
  | null => exact stands_null.continues _ _
  | rowid => exact Stands.continues ⟨.tree (.rowid []), rfl, fun _ => rfl⟩ _ _
  | countAll => exact Stands.continues ⟨.tree .countAll, rfl, fun _ => rfl⟩ _ _
  | @binary left right op _ _ first second =>
    obtain ⟨t, holds⟩ := (first.operation left.rightLevel_pos second op).holds
    have before := left.leftLevel_pos
    have behind := left.rightLevel_pos
    have level := op.level_pos
    have before' := right.leftLevel_pos
    have behind' := right.rightLevel_pos
    exact (holds.group (by omega) (by omega)).continues _ _
  | @unary operand op _ ih =>
    obtain ⟨t, holds⟩ := ih.holds
    exact Continues.unary (holds.group operand.leftLevel_pos operand.rightLevel_pos) _ op
  | @member item negated values _ ih =>
    obtain ⟨t, holds⟩ := (ih.member negated values).holds
    have before := item.leftLevel_pos
    have behind := item.rightLevel_pos
    have whole := holds.group (Nat.le_min.2 ⟨before, by decide⟩) (Nat.le_min.2 ⟨behind, by decide⟩)
    simpa [Expr.tokens] using whole.continues _ _
  | @within item interval _ ih => exact ih.interval item.rightLevel_pos interval
  | @aggregate item function _ ih =>
    obtain ⟨t, holds⟩ := ih.holds
    exact (holds.aggregate item.leftLevel_pos item.rightLevel_pos function).continues _ _
  | @aggregateDistinct item function _ ih =>
    obtain ⟨t, holds⟩ := ih.holds
    exact (holds.aggregateDistinct item.leftLevel_pos item.rightLevel_pos function).continues _ _
  | @cast item target _ ih =>
    obtain ⟨t, holds⟩ := ih.holds
    exact (holds.cast item.leftLevel_pos item.rightLevel_pos target).continues _ _
  | @call arguments name _ ih =>
    have each (argument : Expr) (member : argument ∈ arguments) :
        Holds 1 1 argument.tokens ((read argument.tokens).getD .null) := by
      obtain ⟨t, holds⟩ := (ih argument member).holds
      have whole := holds.mono argument.leftLevel_pos argument.rightLevel_pos
      rw [whole.read (Nat.le_refl _)]
      exact whole
    have all : List.Forall₂ (Holds 1 1) (Expr.tokensAll arguments)
        (arguments.map fun argument => (read argument.tokens).getD .null) := by
      rw [Expr.tokensAll_eq_map, List.forall₂_map_left_iff, List.forall₂_map_right_iff,
        List.forall₂_same]
      exact each
    exact (stands_call name all).continues _ _

end Reading

namespace Expr

/-- An expression is read as a tree, whatever the levels that belong to it let stand beside it. -/
def Reads (e : Expr) (t : Tree) : Prop :=
  Holds e.leftLevel e.rightLevel e.tokens t

theorem Plain.reads {e : Expr} (plain : e.Plain) : ∃ t, e.Reads t :=
  (continues_tokens plain).holds

theorem Plain.value?_eq {e : Expr} (plain : e.Plain) (I : Interpretation) :
    e.value? I = (read e.tokens).map (Tree.value I) := by
  rw [Expr.value?, Fragment.read, tokens_fragment plain]

theorem Reads.value? {e : Expr} {t : Tree} (reads : e.Reads t) (plain : e.Plain)
    (I : Interpretation) :
    e.value? I = some (t.value I) := by
  rw [plain.value?_eq, reads.read e.rightLevel_pos, Option.map_some]

theorem reads_column (name : String) : (Expr.column name).Reads (.column [name]) :=
  Stands.holds ⟨.named [name], rfl, fun _ => rfl⟩ _ _

theorem value?_column (name : String) (I : Interpretation) :
    (Expr.column name).value? I = some (I.column [name]) :=
  (reads_column name).value? (.column name) I

theorem Plain.exists_value {e : Expr} (plain : e.Plain) (I : Interpretation) :
    ∃ v, e.value? I = some v := by
  obtain ⟨t, reads⟩ := plain.reads
  exact ⟨_, reads.value? plain I⟩

section Operations
variable {e left right : Expr} {t u : Tree}

theorem Reads.binary (first : left.Reads t) (second : right.Reads u) (op : BinaryOp)
    (notIs : op ≠ .is) (before : op.level ≤ left.rightLevel) (behind : op.level < right.leftLevel) :
    (Expr.binary op left right).Reads (.binary op t u) := by
  have both := Holds.operation first second op notIs before behind
  have bounds := And.intro left.leftLevel_pos right.rightLevel_pos
  have level := op.level_pos
  exact (both.group (by omega) (by omega)).holds _ _

theorem Reads.binary_null (first : left.Reads t) (op : BinaryOp)
    (before : op.level ≤ left.rightLevel) :
    (Expr.binary op left .null).Reads (.binary op t .null) := by
  have both := Holds.operation_stands first stands_null op before
  have bound := left.leftLevel_pos
  have level := op.level_pos
  exact (both.group (by omega) (by omega)).holds _ _

theorem Reads.member (reads : e.Reads t) (before : testLevel ≤ e.rightLevel) (negated : Bool)
    (values : List Value) :
    (Expr.member negated e values).Reads (.member negated t (values.map .bound)) := by
  have test := (Holds.member reads before negated values).group
    (Nat.le_min.2 ⟨e.leftLevel_pos, by decide⟩) (by decide)
  change Holds atomLevel atomLevel _ _
  simpa [tokens] using test.holds atomLevel atomLevel

theorem Reads.unary (reads : e.Reads t) (op : UnaryOp) : (Expr.unary op e).Reads (.unary op t) :=
  Holds.unary (Holds.group reads e.leftLevel_pos e.rightLevel_pos) _ op

theorem Reads.cast (reads : e.Reads t) (target : DeclaredType) :
    (Expr.cast e target).Reads (.cast t target) :=
  (Holds.cast reads e.leftLevel_pos e.rightLevel_pos target).holds _ _

theorem Reads.within (reads : e.Reads t) (interval : Interval Value)
    (takes : takesItem e.leftLevel e.rightLevel interval) :
    (Expr.within e interval).Reads (t.test interval) :=
  (Holds.interval reads interval takes).mono (Nat.le_refl _) (Nat.min_le_right ..)

/-- A half-open test behind AND is taken apart: its lower bound goes to what stands before. -/
theorem Reads.and_halfOpen (first : left.Reads t) (second : right.Reads u) {low high : Value}
    (before : BinaryOp.and.level ≤ left.rightLevel)
    (takes : takesItem right.leftLevel right.rightLevel (.halfOpen low high)) :
    (Expr.binary .and left (.within right (.halfOpen low high))).Reads
      (.binary .and (.binary .and t (.binary .gtEq u (.bound low)))
      (.binary .lt u (.bound high))) := by
  have lower := Holds.test second .gtEq rfl takes.1 low
  have upper := Holds.test second .lt rfl takes.1 high
  have left_lower :=
    Holds.operation first lower .and (by simp) before (Nat.lt_min.2 ⟨takes.2, by decide⟩)
  have all :=
    left_lower.operation upper .and (by simp) (by decide) (Nat.lt_min.2 ⟨takes.2, by decide⟩)
  have bound := left.leftLevel_pos
  have grouped :=
    (all.group (by simp only [BinaryOp.level]; omega) (by decide)).holds atomLevel atomLevel
  change Holds atomLevel atomLevel _ _
  simpa [tokens, intervalTokens, BinaryOp.tokens] using grouped

end Operations

theorem Plain.isNullLiteral_iff {e : Expr} (plain : e.Plain) :
    e.fragment.isNullLiteral = true ↔ e = .null := by
  constructor
  · intro literal
    have fragment : e.fragment = ⟨"NULL", []⟩ := by
      simp only [Fragment.isNullLiteral, Bool.and_eq_true, List.isEmpty_iff, beq_iff_eq] at literal
      ext1
      · exact literal.2
      · exact literal.1
    have single : e.tokens = [.null] := by
      rw [← tokens_fragment plain, fragment]
      decide
    cases plain with
    | null => rfl
    | qualified table =>
      obtain ⟨first, rest, path⟩ := table.path_eq_cons
      simp [tokens, path] at single
    | unary op => cases op <;> simp [tokens, UnaryOp.token] at single
    | within interval =>
      have length := congrArg List.length single
      cases interval <;> simp [tokens, intervalTokens, testTokens] at length
      omega
    | _ => simp [tokens] at single
  · rintro rfl
    decide

end Expr

end TypedSql
