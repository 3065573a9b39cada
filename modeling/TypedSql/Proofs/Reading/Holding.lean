import TypedSql.Proofs.Reading.Grouping

namespace TypedSql

open Reading

/-- The loosest operator of an interval test. -/
def Interval.level : Interval α → Nat
  | closed _ _ => testLevel
  | halfOpen _ _ => BinaryOp.and.level
  | atMost _ => BinaryOp.ltEq.level
  | below _ => BinaryOp.lt.level
  | atLeast _ => BinaryOp.gtEq.level

namespace Expr

/-- Above the level of every operator. -/
def atomLevel : Nat := 11

/-- The level up to which operators before an expression leave it whole. -/
def leftLevel : Expr → Nat
  | within item interval => min item.leftLevel interval.level
  | _ => atomLevel

/-- The level up to which operators behind an expression leave it whole. -/
def rightLevel : Expr → Nat
  | unary op _ => op.level
  | within item interval => min item.rightLevel interval.level
  | _ => atomLevel

end Expr

theorem BinaryOp.level_pos (op : BinaryOp) : 1 ≤ op.level := by
  cases op <;> decide

theorem UnaryOp.level_pos (op : UnaryOp) : 1 ≤ op.level := by
  cases op <;> decide

theorem Interval.level_pos (interval : Interval α) : 1 ≤ interval.level := by
  cases interval <;> simp [level, testLevel, BinaryOp.level]

theorem Expr.leftLevel_pos (e : Expr) : 1 ≤ e.leftLevel := by
  fun_induction Expr.leftLevel e with
  | case1 item interval ih => exact Nat.le_min.2 ⟨ih, interval.level_pos⟩
  | case2 => decide

theorem Expr.rightLevel_pos (e : Expr) : 1 ≤ e.rightLevel := by
  fun_induction Expr.rightLevel e with
  | case1 op => exact op.level_pos
  | case2 item interval ih => exact Nat.le_min.2 ⟨ih, interval.level_pos⟩
  | case3 => decide

namespace Reading
open TypedSql.Expr (testTokens intervalTokens memberTokens listTokens)

/-- Over a part of the stack, and whatever rests below it, tokens leave another part. -/
def Extends (left : Nat) (tokens : List Token) (inner inner' : List Frame) (focus : Focus) : Prop :=
  ∀ base, Rests left base → run tokens ⟨inner ++ base, .operand⟩ = some ⟨inner' ++ base, focus⟩

/-- Tokens read as an operand, behind any operators. -/
def Continues (left right : Nat) (tokens : List Token) : Prop :=
  ∀ inner, Above 1 inner → ∃ inner' focus t, focus.tree? = some t ∧
    Extends left tokens inner inner' focus ∧ ∀ n ≤ right, Above n inner → Above n inner'

/-- Tokens read as an expression of their own, which the levels leave whole. -/
def Holds (left right : Nat) (tokens : List Token) (t : Tree) : Prop :=
  ∃ inner focus s, focus.tree? = some s ∧ closeAll inner s = t ∧ Above right inner ∧
    Extends left tokens [] inner focus

/-- Tokens are an operand wherever one is due. -/
def Stands (tokens : List Token) (t : Tree) : Prop :=
  ∃ focus, focus.tree? = some t ∧ ∀ stack, run tokens ⟨stack, .operand⟩ = some ⟨stack, focus⟩

theorem Above.mono {level limit : Nat} {frames : List Frame} (above : Above limit frames)
    (le : level ≤ limit) : Above level frames :=
  fun f member => Nat.le_trans le (above f member)

theorem closeAll_concat (frames : List Frame) (f : Frame) (t : Tree) :
    closeAll (frames ++ [f]) t = f.close (closeAll frames t) := by
  simp [closeAll]

theorem Above.settle_eq {limit : Nat} {frames : List Frame} (above : Above limit frames)
    (t : Tree) :
    settle limit frames t = ([], closeAll frames t) := by
  simpa [settle] using settle_append_of_above above [] t

section Parts
variable {left right left' right' : Nat} {ts us : List Token} {t u : Tree}

namespace Extends
variable {inner inner₁ inner₂ : List Frame} {focus focus' : Focus}

theorem follow (first : Extends left ts inner inner₁ focus) (found : focus.tree? = some t)
    {token : Token}
    (notDot : token ≠ .dot) (notOpening : token ≠ .opening) (rest : List Token) {base : List Frame}
    (rests : Rests left base) :
    run (ts ++ token :: rest) ⟨inner ++ base, .operand⟩ =
      (followStep (inner₁ ++ base) t token).bind (run rest) := by
  rw [run_append, first base rests, Option.bind_some, run, step_of_tree? found notDot notOpening]

theorem operation (first : Extends left ts inner inner₁ focus) (found : focus.tree? = some t)
    (above : Above 1 inner₁) (op : BinaryOp)
    (second :
      Extends right us (.binary (settle op.level inner₁ t).2 op :: (settle op.level inner₁ t).1)
        inner₂ focus') :
    Extends (min left (min op.level right)) (ts ++ op.tokens ++ us) inner inner₂ focus' := by
  intro base rests
  have atLeft : Rests left base := rests.mono (by omega)
  have atOp : Rests op.level base := rests.mono (by omega)
  have atRight : Rests right base := rests.mono (by omega)
  have notRange : ∀ item, (settle op.level (inner₁ ++ base) t).1.head? ≠ some (.range item) := by
    intro item
    have remain : Above 1 (settle op.level inner₁ t).1 := above_settle above t
    rw [settle_append atOp]
    cases settled : (settle op.level inner₁ t).1 with
    | nil =>
      intro top
      exact absurd (atOp _ top).2 (by simp [Frame.awaits])
    | cons f frames =>
      rw [settled] at remain
      rintro ⟨⟩
      exact absurd (remain _ (List.mem_cons_self ..)) (by simp [Frame.level])
  rw [run_append, run_append, first base atLeft, Option.bind_some, run_operator found notRange,
    Option.bind_some, settle_append atOp]
  exact second base atRight

theorem between (first : Extends left ts inner inner₁ focus) (found : focus.tree? = some t)
    (low high : Value) :
    Extends (min left testLevel) (ts ++ [.between, .bound low, .operator .and, .bound high]) inner
      (.between (settle testLevel inner₁ t).2 (.bound low) :: (settle testLevel inner₁ t).1)
      (.tree (.bound high)) := by
  intro base rests
  rw [first.follow found (by simp) (by simp) _ (rests.mono (Nat.min_le_left ..))]
  simp only [followStep, settle_append (rests.mono (Nat.min_le_right ..))]
  rfl

end Extends

theorem Holds.mono (holds : Holds left right ts t) {l r : Nat} (before : l ≤ left)
    (behind : r ≤ right) :
    Holds l r ts t := by
  obtain ⟨inner, focus, s, found, whole, above, extends'⟩ := holds
  exact ⟨inner, focus, s, found, whole, above.mono behind, fun base rests =>
    extends' base (rests.mono before)⟩

theorem Continues.mono (continues : Continues left right ts) {l r : Nat} (before : l ≤ left)
    (behind : r ≤ right) : Continues l r ts := by
  intro inner above
  obtain ⟨inner', focus, t, found, extends', keeps⟩ := continues inner above
  exact ⟨inner', focus, t, found, fun base rests => extends' base (rests.mono before),
    fun n le => keeps n (Nat.le_trans le behind)⟩

theorem Continues.holds (continues : Continues left right ts) : ∃ t, Holds left right ts t := by
  obtain ⟨inner, focus, s, found, extends', keeps⟩ := continues [] (by simp [Above])
  exact ⟨_, inner, focus, s, found, rfl, keeps right (Nat.le_refl _) (by simp [Above]), extends'⟩

theorem Stands.continues (stands : Stands ts t) (left right : Nat) : Continues left right ts := by
  obtain ⟨focus, found, reads⟩ := stands
  exact fun inner _ =>
    ⟨inner, focus, t, found, fun base _ => reads (inner ++ base), fun _ _ above => above⟩

theorem Stands.holds (stands : Stands ts t) (left right : Nat) : Holds left right ts t := by
  obtain ⟨focus, found, reads⟩ := stands
  exact ⟨[], focus, t, found, rfl, by simp [Above], fun base _ => reads base⟩

theorem Holds.read (holds : Holds left right ts t) (pos : 1 ≤ right) : read ts = some t := by
  obtain ⟨inner, focus, s, found, rfl, above, extends'⟩ := holds
  have reads := extends' [] (by simp [Rests])
  rw [List.append_nil] at reads
  simp [Reading.read, reads, State.finish, found, (above.mono pos).settle_eq]

/-- What a frame that only its own token closes gets. -/
theorem Holds.enclosed (holds : Holds left right ts t) (before : 1 ≤ left) (behind : 1 ≤ right)
    {f : Frame}
    (fence : f.level = 0) (quiet : f.awaits = false) (stack : List Frame) {token : Token}
    (ends : token ∈ [Token.closing, .comma, .as]) (rest : List Token) :
    run (ts ++ token :: rest) ⟨f :: stack, .operand⟩ =
      (followStep (f :: stack) t token).bind (run rest) := by
  obtain ⟨inner, focus, s, found, rfl, above, extends'⟩ := holds
  have rests (limit : Nat) (pos : 1 ≤ limit) : Rests limit (f :: stack) := by
    rintro _ ⟨⟩
    exact ⟨by omega, quiet⟩
  have settled : settle 1 (inner ++ f :: stack) s = settle 1 (f :: stack) (closeAll inner s) :=
    settle_append_of_above (above.mono behind) _ _
  have notDot : token ≠ .dot := by
    rintro rfl
    simp at ends
  have notOpening : token ≠ .opening := by
    rintro rfl
    simp at ends
  have next := extends'.follow found notDot notOpening rest (rests left before)
  rw [List.nil_append] at next
  rw [next]
  rcases ends with _ | ⟨_, _ | ⟨_, _ | ⟨_, ⟨⟩⟩⟩⟩ <;> simp only [followStep, settled]

/-- An operator that neither of its operands lets in takes both. -/
theorem Holds.operation (first : Holds left right ts t) (second : Holds left' right' us u)
    (op : BinaryOp) (notIs : op ≠ .is) (before : op.level ≤ right) (behind : op.level < left') :
    Holds (min left op.level) (min op.level right') (ts ++ op.tokens ++ us) (.binary op t u) := by
  obtain ⟨inner, focus, s, found, rfl, above, extends'⟩ := first
  obtain ⟨inner', focus', s', found', rfl, above', extends''⟩ := second
  have settled := (above.mono before).settle_eq s
  have quiet : (Frame.binary (closeAll inner s) op).awaits = false := by
    cases op with
    | is => exact absurd rfl notIs
    | _ => rfl
  have pending : Extends op.level us [.binary (closeAll inner s) op]
      (inner' ++ [.binary (closeAll inner s) op]) focus' := by
    intro base _
    simpa using extends'' (.binary (closeAll inner s) op :: base)
      (by rintro _ ⟨⟩; exact ⟨behind, quiet⟩)
  have whole := extends'.operation found (above.mono (Nat.le_trans op.level_pos before)) op
    (by simpa only [settled] using pending)
  rw [Nat.min_self] at whole
  refine ⟨_, focus', s', found', closeAll_concat .., ?_, whole⟩
  intro f member
  rcases List.mem_append.1 member with old | new
  · exact (above'.mono (Nat.min_le_right ..)) f old
  · rw [List.mem_singleton.1 new]
    exact Nat.min_le_left ..

/-- An operand that stands anywhere may stand behind IS too. -/
theorem Holds.operation_stands (first : Holds left right ts t) (second : Stands us u)
    (op : BinaryOp) (before : op.level ≤ right) :
    Holds (min left op.level) op.level (ts ++ op.tokens ++ us) (.binary op t u) := by
  obtain ⟨inner, focus, s, found, rfl, above, extends'⟩ := first
  obtain ⟨focus', found', stands⟩ := second
  have pending : Extends op.level us
    (.binary (settle op.level inner s).2 op :: (settle op.level inner s).1)
      (.binary (settle op.level inner s).2 op :: (settle op.level inner s).1) focus' :=
        fun base _ => stands _
  have whole := extends'.operation found (above.mono (Nat.le_trans op.level_pos before)) op pending
  rw [(above.mono before).settle_eq s, Nat.min_self] at whole
  exact ⟨_, focus', u, found', rfl, by simp [Above, Frame.level], whole⟩

theorem Holds.between (holds : Holds left right ts t) (behind : testLevel ≤ right)
    (low high : Value) :
    Holds (min left testLevel) testLevel (ts ++ [.between, .bound low, .operator .and, .bound high])
      (.between t (.bound low) (.bound high)) := by
  obtain ⟨inner, focus, s, found, rfl, above, extends'⟩ := holds
  have whole := extends'.between found low high
  rw [(above.mono behind).settle_eq s] at whole
  exact ⟨_, _, _, rfl, rfl, by simp [Above, Frame.level], whole⟩

/-- Frames that collect the items of a list, and what they make of all of them. -/
structure Collects (frame : List Tree → Frame) (make : List Tree → Tree) : Prop where
  fence : ∀ before, (frame before).level = 0
  quiet : ∀ before, (frame before).awaits = false
  comma : ∀ before stack t,
    followStep (frame before :: stack) t .comma = some ⟨frame (before ++ [t]) :: stack, .operand⟩
  closing : ∀ before stack t,
    followStep (frame before :: stack) t .closing = some ⟨stack, .tree (make (before ++ [t]))⟩
  empty : ∀ stack, operandStep (frame [] :: stack) .closing = some ⟨stack, .tree (make [])⟩

theorem collects_list (negated : Bool) (item : Tree) :
    Collects (.list negated item) (.member negated item) :=
  ⟨fun _ => rfl, fun _ => rfl, fun _ _ _ => rfl, fun _ _ _ => rfl, fun _ => rfl⟩

theorem collects_arguments (name : String) : Collects (.arguments name) (.call name) :=
  ⟨fun _ => rfl, fun _ => rfl, fun _ _ _ => rfl, fun _ _ _ => rfl, fun _ => rfl⟩

theorem Collects.run_items {frame : List Tree → Frame} {make : List Tree → Tree}
    (collects : Collects frame make) {items : List (List Token)} {trees : List Tree}
    (each : List.Forall₂ (Holds 1 1) items trees) (before : List Tree)
    (begins : items = [] → before = []) (stack : List Frame) (rest : List Token) :
    run (listTokens items ++ .closing :: rest) ⟨frame before :: stack, .operand⟩ =
      run rest ⟨stack, .tree (make (before ++ trees))⟩ := by
  induction each generalizing before with
  | nil =>
    obtain rfl := begins rfl
    simp [listTokens, run, step, collects.empty]
  | @cons item t items trees one others ih =>
    have enclosed {token : Token} (ends : token ∈ [Token.closing, .comma, .as])
        (rest : List Token) :=
      one.enclosed (Nat.le_refl _) (Nat.le_refl _) (collects.fence before)
        (collects.quiet before) stack ends rest
    cases others with
    | nil => simp [listTokens, enclosed, collects.closing]
    | @cons next u items trees second others =>
      have shape : listTokens (item :: next :: items) =
          item ++ .comma :: listTokens (next :: items) := by
        simp [listTokens, List.intercalate_cons_cons]
      rw [shape, List.append_assoc, List.cons_append, enclosed (by simp), collects.comma,
        Option.bind_some, ih (before ++ [t]) (by simp), List.append_assoc, List.singleton_append]

theorem Holds.group (holds : Holds left right ts t) (before : 1 ≤ left) (behind : 1 ≤ right) :
    Stands (.opening :: (ts ++ [.closing])) t :=
  ⟨.tree t, rfl, fun stack => holds.enclosed before behind rfl rfl stack (by simp) []⟩

theorem run_bounds (negated : Bool) (item : Tree) (values : List Value) (stack : List Frame) :
    run (listTokens (values.map fun v => [.bound v]) ++ [.closing])
      ⟨.list negated item [] :: stack, .operand⟩ =
      some ⟨stack, .tree (.member negated item (values.map .bound))⟩ := by
  have each : List.Forall₂ (Holds 1 1) (values.map fun v => [Token.bound v])
      (values.map .bound) := by
    rw [List.forall₂_map_left_iff, List.forall₂_map_right_iff, List.forall₂_same]
    exact fun v _ => Stands.holds ⟨.tree (.bound v), rfl, fun _ => rfl⟩ 1 1
  simpa [run] using (collects_list negated item).run_items each [] (fun _ => rfl) stack []

theorem Extends.member {inner inner₁ : List Frame} {focus : Focus}
    (first : Extends left ts inner inner₁ focus) (found : focus.tree? = some t) (negated : Bool)
    (values : List Value) :
    Extends (min left testLevel)
      (ts ++ memberTokens negated ++ .opening ::
      (listTokens (values.map fun v => [.bound v]) ++ [.closing]))
      inner (settle testLevel inner₁ t).1
      (.tree (.member negated (settle testLevel inner₁ t).2 (values.map .bound))) := by
  intro base rests
  have atLeft : Rests left base := rests.mono (Nat.min_le_left ..)
  have settled := settle_append (rests.mono (Nat.min_le_right ..) : Rests testLevel base) inner₁ t
  have list :=
    run_bounds negated (settle testLevel inner₁ t).2 values ((settle testLevel inner₁ t).1 ++ base)
  cases negated with
  | false =>
    rw [memberTokens, if_neg (by simp), List.append_assoc, List.singleton_append,
      first.follow found (by simp) (by simp) _ atLeft]
    simpa [followStep, settled, run, step] using list
  | true =>
    rw [memberTokens, if_pos rfl, List.append_assoc, List.cons_append, List.singleton_append,
      first.follow found (by simp) (by simp) _ atLeft]
    simpa [followStep, settled, run, step] using list

theorem Holds.member (holds : Holds left right ts t) (behind : testLevel ≤ right) (negated : Bool)
    (values : List Value) :
    Holds (min left testLevel) testLevel
      (ts ++ memberTokens negated ++ .opening ::
      (listTokens (values.map fun v => [.bound v]) ++ [.closing]))
      (.member negated t (values.map .bound)) := by
  obtain ⟨inner, focus, s, found, rfl, above, extends'⟩ := holds
  have whole := extends'.member found negated values
  rw [(above.mono behind).settle_eq s] at whole
  exact ⟨[], _, _, rfl, rfl, by simp [Above], whole⟩

/-- An operator before an operand waits on the stack, except NOT behind IS. -/
theorem operandStep_unary (op : UnaryOp) {stack : List Frame}
    (quiet : ∀ f ∈ stack.head?, f.awaits = false) :
    operandStep stack op.token = some ⟨.unary op :: stack, .operand⟩ := by
  cases op with
  | neg | bitNot => rfl
  | not =>
    simp only [UnaryOp.token, operandStep]
    split
    · exact absurd (quiet _ rfl) (by simp [Frame.awaits])
    · rfl

theorem Holds.unary (stands : Stands us u) (left : Nat) (op : UnaryOp) :
    Holds left op.level (op.token :: us) (.unary op u) := by
  obtain ⟨focus, found, reads⟩ := stands
  refine ⟨[.unary op], focus, u, found, rfl, by simp [Above, Frame.level], fun base rests => ?_⟩
  have quiet : ∀ f ∈ base.head?, f.awaits = false := fun f top => (rests f top).2
  simp only [run, step, List.nil_append, operandStep_unary op quiet, Option.bind_some, reads]
  rfl

theorem Continues.unary (stands : Stands us u) (left : Nat) (op : UnaryOp) :
    Continues left op.level (op.token :: us) := by
  obtain ⟨focus, found, reads⟩ := stands
  intro inner above
  by_cases quiet : ∀ f ∈ inner.head?, op = .not → f.awaits = false
  · refine ⟨.unary op :: inner, focus, u, found, fun base rests => ?_, ?_⟩
    · have pushes : operandStep (inner ++ base) op.token =
          some ⟨.unary op :: (inner ++ base), .operand⟩ := by
        cases op with
        | neg | bitNot => rfl
        | not =>
          refine operandStep_unary .not fun f top => ?_
          cases inner with
          | nil => exact (rests f top).2
          | cons => exact quiet f top rfl
      simp only [run, step, pushes, Option.bind_some, reads]
      rfl
    · intro n le frames f member
      rcases List.mem_cons.1 member with rfl | old
      · exact le
      · exact frames f old
  · push Not at quiet
    obtain ⟨f, top, rfl, awaits⟩ := quiet
    obtain ⟨rest, rfl⟩ := List.head?_eq_some_iff.1 top
    have positive : 1 ≤ f.level := above f (List.mem_cons_self ..)
    obtain ⟨left, rfl⟩ : ∃ left, f = .binary left .is := by
      cases f with
      | binary left op => cases op with
        | is => exact ⟨left, rfl⟩
        | _ => simp [Frame.awaits] at awaits
      | range => simp [Frame.level] at positive
      | _ => simp [Frame.awaits] at awaits
    refine ⟨.binary left .isNot :: rest, focus, u, found, fun base _ => ?_, fun n _ frames => ?_⟩
    · exact reads _
    · exact List.forall_mem_cons.2 (List.forall_mem_cons.1 frames)

theorem Continues.operation (first : Continues left right ts) (pos : 1 ≤ right)
    (second : Continues left' right' us) (op : BinaryOp) :
    Continues (min left (min op.level left')) (min right (min op.level right'))
      (ts ++ op.tokens ++ us) := by
  intro inner above
  obtain ⟨inner₁, focus, t, found, extends', keeps⟩ := first inner above
  have above₁ := keeps 1 pos above
  have pushed {n : Nat} (le : n ≤ op.level) (frames : Above n inner₁) :
      Above n (.binary (settle op.level inner₁ t).2 op :: (settle op.level inner₁ t).1) :=
    List.forall_mem_cons.2 ⟨le, above_settle frames t⟩
  obtain ⟨inner₂, focus', u, found', extends'', keeps'⟩ := second _ (pushed op.level_pos above₁)
  refine ⟨inner₂, focus', u, found', extends'.operation found above₁ op extends'',
    fun n le frames => ?_⟩
  exact keeps' n (by omega) (pushed (by omega) (keeps n (by omega) frames))

theorem Continues.between (continues : Continues left right ts) (low high : Value) :
    Continues (min left testLevel) (min right testLevel)
      (ts ++ [.between, .bound low, .operator .and, .bound high]) := by
  intro inner above
  obtain ⟨inner₁, focus, t, found, extends', keeps⟩ := continues inner above
  refine ⟨_, _, _, rfl, extends'.between found low high, fun n le frames => ?_⟩
  exact List.forall_mem_cons.2
    ⟨(by omega : n ≤ testLevel), above_settle (keeps n (by omega) frames) t⟩

theorem Continues.member (continues : Continues left right ts) (negated : Bool)
    (values : List Value) :
    Continues (min left testLevel) (min right testLevel)
      (ts ++ memberTokens negated ++ .opening ::
      (listTokens (values.map fun v => [.bound v]) ++ [.closing])) := by
  intro inner above
  obtain ⟨inner₁, focus, t, found, extends', keeps⟩ := continues inner above
  refine ⟨_, _, _, rfl, extends'.member found negated values, fun n le frames => ?_⟩
  exact above_settle (keeps n (by omega) frames) t

theorem stands_bound (v : Value) : Stands [.bound v] (.bound v) :=
  ⟨.tree (.bound v), rfl, fun _ => rfl⟩

theorem stands_null : Stands [.null] .null :=
  ⟨.tree .null, rfl, fun _ => rfl⟩

theorem Continues.test (continues : Continues left right ts) (pos : 1 ≤ right) (op : BinaryOp)
    (single : op.tokens = [.operator op]) (bound : Value) :
    Continues (min left op.level) (min right op.level) (testTokens ts op bound) := by
  have whole := continues.operation pos ((stands_bound bound).continues op.level op.level) op
  simpa [testTokens, single] using whole

theorem Continues.interval (continues : Continues left right ts) (pos : 1 ≤ right)
    (interval : Interval Value) :
    Continues (min left interval.level) (min right interval.level)
      (intervalTokens ts interval) := by
  cases interval with
  | closed low high => exact continues.between low high
  | halfOpen low high =>
    have lower := continues.test pos .gtEq rfl low
    have upper := continues.test pos .lt rfl high
    have both := lower.operation (Nat.le_min.2 ⟨pos, by decide⟩) upper .and
    have and_le : BinaryOp.and.level ≤ BinaryOp.gtEq.level := by decide
    have same : BinaryOp.gtEq.level = BinaryOp.lt.level := rfl
    rw [List.append_assoc] at both
    exact both.mono (by simp only [Interval.level]; omega) (by simp only [Interval.level]; omega)
  | atMost high => exact continues.test pos .ltEq rfl high
  | below high => exact continues.test pos .lt rfl high
  | atLeast low => exact continues.test pos .gtEq rfl low

theorem Holds.test (holds : Holds left right ts t) (op : BinaryOp)
    (single : op.tokens = [.operator op]) (behind : op.level ≤ right) (bound : Value) :
    Holds (min left op.level) op.level (testTokens ts op bound) (.binary op t (.bound bound)) := by
  have whole := holds.operation_stands (stands_bound bound) op behind
  simpa [testTokens, single] using whole

/-- The operators of an interval test take the whole item. -/
def takesItem (left right : Nat) : Interval α → Prop
  | .closed _ _ => testLevel ≤ right
  | .halfOpen _ _ => BinaryOp.gtEq.level ≤ right ∧ BinaryOp.and.level < left
  | .atMost _ | .below _ | .atLeast _ => BinaryOp.gtEq.level ≤ right

theorem Holds.interval (holds : Holds left right ts t) (interval : Interval Value)
    (takes : takesItem left right interval) :
    Holds (min left interval.level) interval.level (intervalTokens ts interval)
      (t.test interval) := by
  cases interval with
  | closed low high => exact holds.between takes low high
  | halfOpen low high =>
    have lower := holds.test .gtEq rfl takes.1 low
    have upper := holds.test .lt rfl takes.1 high
    have both :=
      lower.operation upper .and (by simp) (by decide) (Nat.lt_min.2 ⟨takes.2, by decide⟩)
    rw [List.append_assoc] at both
    refine both.mono ?_ ?_ <;> simp only [Interval.level, BinaryOp.level] <;> omega
  | atMost high => exact holds.test .ltEq rfl takes high
  | below high => exact holds.test .lt rfl takes high
  | atLeast low => exact holds.test .gtEq rfl takes low

end Parts

end Reading

end TypedSql
