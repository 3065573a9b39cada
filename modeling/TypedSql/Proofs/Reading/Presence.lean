import TypedSql.Proofs.Reading.Operands

namespace TypedSql

open Reading

namespace Value

/-- Not NULL, and no number that is none, which a database stores as NULL. -/
def IsPresent (v : Value) : Prop :=
  Database.storable v ≠ .null

theorem IsPresent.isNull_eq {v : Value} (present : v.IsPresent) : v.isNull = false := by
  cases v with
  | null => exact absurd rfl present
  | _ => rfl

variable {v w : Value} (first : v.IsPresent) (second : w.IsPresent)
include first second

theorem compare_ne_none (op : Database.Comparison) : v.compare op w ≠ none := by
  simp [compare, first.isNull_eq, second.isNull_eq]

end Value

namespace Truth

theorem and_ne_none {a b : Truth} (first : a ≠ none) (second : b ≠ none) : a.and b ≠ none := by
  rcases a with _ | _ | _ <;> rcases b with _ | _ | _ <;> simp_all [and]

theorem or_ne_none {a b : Truth} (first : a ≠ none) (second : b ≠ none) : a.or b ≠ none := by
  rcases a with _ | _ | _ <;> rcases b with _ | _ | _ <;> simp_all [or]

theorem not_ne_none {a : Truth} (known : a ≠ none) : a.not ≠ none := by
  simpa [not] using known

theorem isPresent_value {a : Truth} (known : a ≠ none) : a.value.IsPresent := by
  cases a with
  | none => exact absurd rfl known
  | some holds => simp [value, Value.IsPresent, Database.storable]

end Truth

theorem Value.isPresent_membership {v : Value} {values : List Value} (present : v.IsPresent)
    (each : ∀ w ∈ values, w.IsPresent) (negated : Bool) :
    (v.membership negated values).IsPresent := by
  have known : v.isAmong values ≠ none := by
    induction values with
    | nil => simp [isAmong]
    | cons w rest ih =>
      obtain ⟨second, others⟩ := List.forall_mem_cons.1 each
      exact Truth.or_ne_none (compare_ne_none present second .eq) (ih others)
  cases negated with
  | false => exact Truth.isPresent_value known
  | true => exact Truth.isPresent_value (Truth.not_ne_none known)

namespace Interpretation

/-- Apart from division, what a database makes of values that are not NULL is not NULL.
Numbers that are none, such as a difference of infinities, are left aside. -/
structure Strict (I : Interpretation) : Prop where
  binary : ∀ op a b, op ≠ .div → op ≠ .rem → a.IsPresent → b.IsPresent → (I.binary op a b).IsPresent
  unary : ∀ op a, a.IsPresent → (I.unary op a).IsPresent

variable {I : Interpretation} {a b : Value}

theorem truth_ne_none (present : a.IsPresent) : I.truth a ≠ none := by
  cases a with
  | null => exact absurd rfl present
  | _ => simp [truth]

theorem isPresent_nullTest {op : BinaryOp} (test : op = .is ∨ op = .isNot) (a b : Value) :
    (I.operate op a b).IsPresent := by
  rcases test with rfl | rfl <;> exact Truth.isPresent_value (Option.some_ne_none _)

theorem Strict.operate (strict : I.Strict) {op : BinaryOp} (notDiv : op ≠ .div) (notRem : op ≠ .rem)
    (first : a.IsPresent) (second : b.IsPresent) : (I.operate op a b).IsPresent := by
  have compared (comparison : Database.Comparison) : (a.compare comparison b).value.IsPresent :=
    Truth.isPresent_value (Value.compare_ne_none first second comparison)
  have computed : Value.IsPresent (if a.isNull || b.isNull then .null else I.binary op a b) := by
    simpa [first.isNull_eq, second.isNull_eq] using strict.binary op a b notDiv notRem first second
  cases op with
  | div => exact absurd rfl notDiv
  | rem => exact absurd rfl notRem
  | and =>
    exact Truth.isPresent_value (Truth.and_ne_none (truth_ne_none first) (truth_ne_none second))
  | or =>
    exact Truth.isPresent_value (Truth.or_ne_none (truth_ne_none first) (truth_ne_none second))
  | is => exact isPresent_nullTest (.inl rfl) a b
  | isNot => exact isPresent_nullTest (.inr rfl) a b
  | eq | notEq | lt | ltEq | gt | gtEq => exact compared _
  | _ => exact computed

theorem Strict.apply (strict : I.Strict) (op : UnaryOp) (present : a.IsPresent) :
    (I.apply op a).IsPresent := by
  have computed : Value.IsPresent (if a.isNull then .null else I.unary op a) := by
    simpa [present.isNull_eq] using strict.unary op a present
  cases op with
  | not => exact Truth.isPresent_value (Truth.not_ne_none (truth_ne_none present))
  | neg | bitNot => exact computed

end Interpretation

namespace Tree

theorem values_eq_map (I : Interpretation) (trees : List Tree) :
    values I trees = trees.map (value I) := by
  induction trees with
  | nil => rfl
  | cons t rest ih => rw [values, ih, List.map_cons]

/-- A tree that has a value in a row. -/
def IsPresent (I : Interpretation) (t : Tree) : Prop :=
  (t.value I).IsPresent

end Tree

/-- The bounds of an interval, in their order. -/
def Interval.bounds : Interval α → List α
  | closed low high | halfOpen low high => [low, high]
  | atMost bound | below bound | atLeast bound => [bound]

namespace Reading
open TypedSql.Expr (testTokens intervalTokens memberTokens listTokens)

/-- What is read in part has a value, and is no division, call, aggregate or cast. -/
def Frame.IsPresent (I : Interpretation) : Frame → Prop
  | binary left op => op ≠ .div ∧ op ≠ .rem ∧ left.IsPresent I
  | unary _ | group => True
  | between item low => item.IsPresent I ∧ low.IsPresent I
  | range item => item.IsPresent I
  | list _ item before => item.IsPresent I ∧ ∀ t ∈ before, t.IsPresent I
  | arguments _ _ | aggregate _ _ | cast => False

/-- Every frame of a stack is present. -/
def AllPresent (I : Interpretation) (stack : List Frame) : Prop :=
  ∀ f ∈ stack, f.IsPresent I

/-- Wherever all that is read in part has a value, so has all that is read then. -/
def Preserves (I : Interpretation) (tokens : List Token) : Prop :=
  ∀ stack s, AllPresent I stack → run tokens ⟨stack, .operand⟩ = some s →
    AllPresent I s.stack ∧ ∃ t, s.focus.tree? = some t ∧ t.IsPresent I

variable {I : Interpretation} {ts us : List Token} {stack : List Frame} {t : Tree} {s : State}

theorem Frame.IsPresent.close (strict : I.Strict) {f : Frame} (frame : f.IsPresent I)
    (present : t.IsPresent I) :
    (f.close t).IsPresent I := by
  cases f with
  | binary left op => exact strict.operate frame.1 frame.2.1 frame.2.2 present
  | unary op => exact strict.apply op present
  | between item low =>
    exact Truth.isPresent_value (Truth.and_ne_none (Value.compare_ne_none frame.1 frame.2 _)
      (Value.compare_ne_none frame.1 present _))
  | _ => exact present

theorem AllPresent.settle (strict : I.Strict) (all : AllPresent I stack) (limit : Nat)
    (present : t.IsPresent I) :
    AllPresent I (settle limit stack t).1 ∧ (settle limit stack t).2.IsPresent I := by
  induction stack generalizing t with
  | nil => exact ⟨all, present⟩
  | cons f stack ih =>
    obtain ⟨frame, rest⟩ := List.forall_mem_cons.1 all
    rw [Reading.settle]
    split
    · exact ih rest (frame.close strict present)
    · exact ⟨all, present⟩

section Steps
variable (strict : I.Strict) (all : AllPresent I stack) (present : t.IsPresent I)
include strict all present

theorem followStep_operator {op : BinaryOp} (notDiv : op ≠ .div) (notRem : op ≠ .rem)
    (next : followStep stack t (.operator op) = some s) :
    AllPresent I s.stack ∧ s.focus = .operand := by
  obtain ⟨remain, made⟩ := all.settle strict op.level present
  simp only [followStep] at next
  split at next
  · rename_i item rest t' settled
    rw [settled] at remain made
    obtain rfl := Option.some.inj next
    obtain ⟨range, others⟩ := List.forall_mem_cons.1 remain
    exact ⟨List.forall_mem_cons.2 ⟨⟨range, made⟩, others⟩, rfl⟩
  · rename_i stack' t' _ settled
    rw [settled] at remain made
    obtain rfl := Option.some.inj next
    exact ⟨List.forall_mem_cons.2 ⟨⟨notDiv, notRem, made⟩, remain⟩, rfl⟩

theorem followStep_closing (next : followStep stack t .closing = some s) :
    AllPresent I s.stack ∧ ∃ u : Tree, s.focus.tree? = some u ∧ u.IsPresent I := by
  obtain ⟨remain, made⟩ := all.settle strict 1 present
  simp only [followStep] at next
  split at next
  all_goals cases next
  all_goals
    rename_i settled
    rw [settled] at remain made
    obtain ⟨frame, others⟩ := List.forall_mem_cons.1 remain
  · exact ⟨others, _, rfl, made⟩
  · refine ⟨others, _, rfl, ?_⟩
    have each : ∀ u ∈ _ ++ [_], Tree.IsPresent I u :=
      List.forall_mem_append.2 ⟨frame.2, by simpa using made⟩
    rw [Tree.IsPresent, Tree.value, Tree.values_eq_map]
    exact Value.isPresent_membership frame.1 (List.forall_mem_map.2 each) _
  · exact frame.elim
  · exact frame.elim

end Steps

namespace Preserves

theorem stands (stands : Stands ts t) (present : t.IsPresent I) : Preserves I ts := by
  intro stack s all reads
  obtain ⟨focus, found, whole⟩ := stands
  rw [whole] at reads
  obtain rfl := Option.some.inj reads
  exact ⟨all, t, found, present⟩

theorem follow (first : Preserves I ts) (all : AllPresent I stack) {token : Token}
    (notDot : token ≠ .dot) (notOpening : token ≠ .opening) {rest : List Token}
    (reads : run (ts ++ token :: rest) ⟨stack, .operand⟩ = some s) :
    ∃ stack' t next, AllPresent I stack' ∧ t.IsPresent I ∧ followStep stack' t token = some next ∧
      run rest next = some s := by
  rw [run_append, Option.bind_eq_some_iff] at reads
  obtain ⟨⟨stack', focus⟩, before, behind⟩ := reads
  obtain ⟨remain, t, found, present⟩ := first stack _ all before
  rw [run, Option.bind_eq_some_iff] at behind
  obtain ⟨next, follows, rest'⟩ := behind
  rw [step_of_tree? found notDot notOpening] at follows
  exact ⟨stack', t, next, remain, present, follows, rest'⟩

theorem operation (strict : I.Strict) (first : Preserves I ts) (second : Preserves I us)
    {op : BinaryOp}
    (notDiv : op ≠ .div) (notRem : op ≠ .rem) : Preserves I (ts ++ .operator op :: us) := by
  intro stack s all reads
  obtain ⟨stack', t, next, remain, present, follows, rest⟩ :=
    first.follow all (by simp) (by simp) reads
  obtain ⟨remain', focus⟩ := followStep_operator strict remain present notDiv notRem follows
  obtain ⟨stack'', _⟩ := next
  obtain rfl : _ = Focus.operand := focus
  exact second stack'' s remain' rest

theorem closing (strict : I.Strict) (first : Preserves I ts) :
    ∀ f stack s, f.IsPresent I → AllPresent I stack →
    run (ts ++ [.closing]) ⟨f :: stack, .operand⟩ = some s →
    AllPresent I s.stack ∧ ∃ t : Tree, s.focus.tree? = some t ∧ t.IsPresent I := by
  intro f stack s frame all reads
  obtain ⟨stack', t, next, remain, present, follows, rest⟩ :=
    first.follow (List.forall_mem_cons.2 ⟨frame, all⟩) (by simp) (by simp) reads
  obtain rfl := Option.some.inj rest
  exact followStep_closing strict remain present follows

theorem group (strict : I.Strict) (first : Preserves I ts) :
    Preserves I (.opening :: (ts ++ [.closing])) :=
  fun stack s all reads => first.closing strict .group stack s trivial all reads

theorem unary (strict : I.Strict) (first : Preserves I ts) (op : UnaryOp) :
    Preserves I (op.token :: .opening :: (ts ++ [.closing])) := by
  intro stack s all reads
  rw [run, Option.bind_eq_some_iff] at reads
  obtain ⟨next, begins, rest⟩ := reads
  obtain ⟨stack', rfl, remain⟩ : ∃ stack', next = ⟨stack', .operand⟩ ∧ AllPresent I stack' := by
    cases op with
    | neg | bitNot =>
      exact ⟨_, (Option.some.inj begins).symm, List.forall_mem_cons.2 ⟨trivial, all⟩⟩
    | not =>
      simp only [step, UnaryOp.token, operandStep] at begins
      split at begins
      · obtain ⟨frame, others⟩ := List.forall_mem_cons.1 all
        exact ⟨_, (Option.some.inj begins).symm,
          List.forall_mem_cons.2 ⟨⟨by simp, by simp, frame.2.2⟩, others⟩⟩
      · exact ⟨_, (Option.some.inj begins).symm, List.forall_mem_cons.2 ⟨trivial, all⟩⟩
  exact (first.group strict) stack' s remain rest

theorem nullTest (strict : I.Strict) (first : Preserves I ts) {op : BinaryOp}
    (test : op = .is ∨ op = .isNot) :
    Preserves I (.opening :: (ts ++ op.tokens ++ [.null, .closing])) := by
  intro stack s all reads
  have group : AllPresent I (.group :: stack) := List.forall_mem_cons.2 ⟨trivial, all⟩
  have behind : ∃ more, op.tokens ++ [.null, .closing] = .operator .is :: more ∧ ∀ left rest,
      run more ⟨.binary left .is :: rest, .operand⟩ =
        followStep (.binary left op :: rest) .null .closing := by
    rcases test with rfl | rfl
    · exact ⟨_, rfl, fun left rest => by simp [run, step, operandStep]⟩
    · exact ⟨_, rfl, fun left rest => by simp [run, step, operandStep]⟩
  obtain ⟨more, shape, ends⟩ := behind
  rw [List.append_assoc, shape] at reads
  obtain ⟨stack', t, next, remain, present, follows, rest⟩ :=
    first.follow group (by simp) (by simp) reads
  obtain ⟨settled, made⟩ := remain.settle strict BinaryOp.is.level present
  obtain rfl : _ = next := Option.some.inj follows
  rw [ends] at rest
  have closes :
      followStep
      (.binary (settle BinaryOp.is.level stack' t).2 op :: (settle BinaryOp.is.level stack' t).1)
        .null .closing =
      followStep (settle BinaryOp.is.level stack' t).1
        (.binary op (settle BinaryOp.is.level stack' t).2 .null) .closing := by
    have level : 1 ≤ op.level := op.level_pos
    simp only [followStep, settle, Frame.level, level, if_true, Frame.close]
  rw [closes] at rest
  have truth : Tree.IsPresent I (.binary op (settle BinaryOp.is.level stack' t).2 .null) :=
    Interpretation.isPresent_nullTest test _ _
  exact followStep_closing strict settled truth (by simpa using rest)

theorem bound {v : Value} (present : v.IsPresent) : Preserves I [.bound v] :=
  .stands (stands_bound v) present

theorem test (strict : I.Strict) (first : Preserves I ts) {op : BinaryOp} (notDiv : op ≠ .div)
    (notRem : op ≠ .rem) {v : Value} (present : v.IsPresent) : Preserves I (testTokens ts op v) :=
  first.operation strict (.bound present) notDiv notRem

theorem between (strict : I.Strict) (first : Preserves I ts) {low high : Value}
    (lower : low.IsPresent)
    (upper : high.IsPresent) :
    Preserves I (ts ++ [.between, .bound low, .operator .and, .bound high]) := by
  intro stack s all reads
  obtain ⟨stack', t, next, remain, present, follows, rest⟩ :=
    first.follow all (by simp) (by simp) reads
  obtain ⟨settled, made⟩ := remain.settle strict testLevel present
  obtain rfl : _ = next := Option.some.inj follows
  have bounds : Preserves I [.bound low, .operator .and, .bound high] :=
    (bound lower).operation strict (bound upper) (by simp) (by simp)
  have waiting : AllPresent I
      (.range (settle testLevel stack' t).2 :: (settle testLevel stack' t).1) :=
    List.forall_mem_cons.2 ⟨made, settled⟩
  exact bounds _ s waiting rest

theorem interval (strict : I.Strict) (first : Preserves I ts) {interval : Interval Value}
    (each : ∀ v ∈ interval.bounds, v.IsPresent) : Preserves I (intervalTokens ts interval) := by
  cases interval with
  | closed low high =>
    exact first.between strict (each low (by simp [Interval.bounds]))
      (each high (by simp [Interval.bounds]))
  | halfOpen low high =>
    have lower : Preserves I (testTokens ts .gtEq low) :=
      first.test strict (by simp) (by simp) (each low (by simp [Interval.bounds]))
    have upper : Preserves I (testTokens ts .lt high) :=
      first.test strict (by simp) (by simp) (each high (by simp [Interval.bounds]))
    exact lower.operation strict upper (by simp) (by simp)
  | atMost bound | below bound | atLeast bound =>
    exact first.test strict (by simp) (by simp) (each bound (by simp [Interval.bounds]))

theorem member (strict : I.Strict) (first : Preserves I ts) (negated : Bool) {values : List Value}
    (each : ∀ v ∈ values, v.IsPresent) :
    Preserves I (ts ++ memberTokens negated ++
      .opening :: (listTokens (values.map fun v => [.bound v]) ++ [.closing])) := by
  intro stack s all reads
  obtain ⟨stack', t, remain, present, list⟩ : ∃ stack' t, AllPresent I stack' ∧ t.IsPresent I ∧
      run (listTokens (values.map fun v => [.bound v]) ++ [.closing])
        ⟨.list negated (settle testLevel stack' t).2 [] :: (settle testLevel stack' t).1,
            .operand⟩ = some s := by
    cases negated with
    | false =>
      rw [memberTokens, if_neg (by simp), List.append_assoc, List.singleton_append] at reads
      obtain ⟨stack', t, next, remain, present, follows, rest⟩ :=
        first.follow all (by simp) (by simp) reads
      obtain rfl : _ = next := Option.some.inj follows
      exact ⟨stack', t, remain, present, rest⟩
    | true =>
      rw [memberTokens, if_pos rfl, List.append_assoc, List.cons_append, List.singleton_append]
        at reads
      obtain ⟨stack', t, next, remain, present, follows, rest⟩ :=
        first.follow all (by simp) (by simp) reads
      obtain rfl : _ = next := Option.some.inj follows
      exact ⟨stack', t, remain, present, rest⟩
  obtain ⟨settled, made⟩ := remain.settle strict testLevel present
  rw [run_bounds] at list
  obtain rfl := Option.some.inj list
  refine ⟨settled, _, rfl, ?_⟩
  rw [Tree.IsPresent, Tree.value, Tree.values_map_bound]
  exact Value.isPresent_membership made each negated

theorem read (strict : I.Strict) (preserves : Preserves I ts) (found : read ts = some t) :
    t.IsPresent I := by
  rw [Reading.read, Option.bind_eq_some_iff] at found
  obtain ⟨s, reads, finish⟩ := found
  obtain ⟨remain, u, focus, present⟩ := preserves [] s (by simp [AllPresent]) reads
  obtain ⟨_, made⟩ := remain.settle strict 1 present
  rw [State.finish, focus, Option.bind_some] at finish
  split at finish
  · rename_i settled
    rw [settled] at made
    obtain rfl := Option.some.inj finish
    exact made
  · cases finish

end Preserves

end Reading

end TypedSql
