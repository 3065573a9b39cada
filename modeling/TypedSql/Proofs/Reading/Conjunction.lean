import TypedSql.Proofs.Reading.Operands

namespace TypedSql

open Reading

namespace Reading
open TypedSql.Expr (testTokens intervalTokens)

/-- Tighter than AND: the level of NOT. -/
def conjunctLevel : Nat := 3

/-- Tokens with AND between pieces that AND leaves whole. -/
inductive Conjoined : List Token → Prop where
  | single (piece : Continues conjunctLevel conjunctLevel ts) : Conjoined ts
  | and (first : Conjoined ts) (piece : Continues conjunctLevel conjunctLevel us) :
      Conjoined (ts ++ .operator .and :: us)

section Parts
variable {ts us : List Token} {t : Tree}

theorem Conjoined.extend (conjoined : Conjoined ts) {tail : List Token}
    (extends' : ∀ {us}, Continues conjunctLevel conjunctLevel us →
      Continues conjunctLevel conjunctLevel (us ++ tail)) :
    Conjoined (ts ++ tail) := by
  cases conjoined with
  | single piece => exact .single (extends' piece)
  | and first piece =>
    rw [List.append_assoc, List.cons_append]
    exact .and first (extends' piece)

theorem Conjoined.append (first : Conjoined ts) (second : Conjoined us) :
    Conjoined (ts ++ .operator .and :: us) := by
  induction second with
  | single piece => exact .and first piece
  | and _ piece ih =>
    rw [← List.cons_append, ← List.append_assoc]
    exact .and ih piece

theorem Conjoined.test (conjoined : Conjoined ts) (op : BinaryOp)
    (single : op.tokens = [.operator op])
    (tighter : conjunctLevel ≤ op.level) (bound : Value) : Conjoined (testTokens ts op bound) :=
  conjoined.extend fun piece =>
    (piece.test (by decide) op single bound).mono (Nat.le_min.2 ⟨Nat.le_refl _, tighter⟩)
      (Nat.le_min.2 ⟨Nat.le_refl _, tighter⟩)

theorem Conjoined.interval (conjoined : Conjoined ts) (interval : Interval Value) :
    Conjoined (intervalTokens ts interval) := by
  cases interval with
  | closed low high =>
    exact conjoined.extend fun piece => (piece.between low high).mono (by decide) (by decide)
  | halfOpen low high =>
    have lower := conjoined.test .gtEq rfl (by decide) low
    have upper := conjoined.test .lt rfl (by decide) high
    exact lower.append upper
  | atMost high => exact conjoined.test .ltEq rfl (by decide) high
  | below high => exact conjoined.test .lt rfl (by decide) high
  | atLeast low => exact conjoined.test .gtEq rfl (by decide) low

/-- Only range tests are read by operators that hold as loose as AND. -/
theorem conjunctLevel_le {e : Expr} (notWithin : ∀ item interval, e ≠ .within item interval) :
    conjunctLevel ≤ e.leftLevel ∧ conjunctLevel ≤ e.rightLevel := by
  cases e with
  | within item interval => exact absurd rfl (notWithin item interval)
  | unary op operand =>
    cases op <;>
      simp [Expr.leftLevel, Expr.rightLevel, Expr.atomLevel, UnaryOp.level, conjunctLevel]
  | _ => simp [Expr.leftLevel, Expr.rightLevel, Expr.atomLevel, conjunctLevel]

theorem conjoined_tokens {e : Expr} (plain : e.Plain) : Conjoined e.tokens := by
  fun_induction Expr.leftLevel e with
  | case1 item interval ih =>
    cases plain with
    | within _ inner => exact (ih inner).interval interval
  | case2 e notWithin =>
    obtain ⟨before, behind⟩ := conjunctLevel_le notWithin
    exact .single ((continues_tokens plain).mono before behind)

theorem Holds.and_piece (first : Holds BinaryOp.and.level BinaryOp.and.level ts t)
    (second : Holds conjunctLevel conjunctLevel us u) :
    Holds BinaryOp.and.level BinaryOp.and.level (ts ++ .operator .and :: us)
      (.binary .and t u) := by
  have both := first.operation second .and (by simp) (Nat.le_refl _) (by decide)
  rw [List.append_assoc] at both
  exact both.mono (by decide) (by decide)

/-- The tree of pieces has, behind anything and AND, the value of the conjunction. -/
theorem Conjoined.holds (conjoined : Conjoined us) :
    ∃ u, Holds BinaryOp.and.level BinaryOp.and.level us u ∧
      ∀ {ts t}, Holds BinaryOp.and.level BinaryOp.and.level ts t →
        ∃ w, Holds BinaryOp.and.level BinaryOp.and.level (ts ++ .operator .and :: us) w ∧
          ∀ I : Interpretation, w.value I = I.operate .and (t.value I) (u.value I) := by
  induction conjoined with
  | single piece =>
    obtain ⟨u, holds⟩ := piece.holds
    refine ⟨u, holds.mono (by decide) (by decide), fun first => ?_⟩
    exact ⟨_, first.and_piece holds, fun I => rfl⟩
  | and _ piece ih =>
    obtain ⟨u, before, behind⟩ := ih
    obtain ⟨v, holds⟩ := piece.holds
    refine ⟨_, before.and_piece holds, fun first => ?_⟩
    obtain ⟨w, whole, value⟩ := behind first
    refine ⟨.binary .and w v, ?_, fun I => ?_⟩
    · rw [← List.cons_append, ← List.append_assoc]
      exact whole.and_piece holds
    · simp only [Tree.value, value, I.operate_and_assoc]

end Parts

end Reading

namespace Expr

/-- By its text, AND has the value of the conjunction of its operands, whichever they are. -/
theorem value?_and {a b : Expr} (first : a.Plain) (second : b.Plain) (I : Interpretation) :
    ∃ v w, a.value? I = some v ∧ b.value? I = some w ∧
      (Expr.binary .and a b).value? I = some (I.operate .and v w) := by
  obtain ⟨t, before, _⟩ := (conjoined_tokens first).holds
  obtain ⟨u, alone, behind⟩ := (conjoined_tokens second).holds
  obtain ⟨s, whole, value⟩ := behind before
  have grouped : Reads (.binary .and a b) s := by
    have closed := (whole.group (by decide) (by decide)).holds atomLevel atomLevel
    change Holds atomLevel atomLevel _ _
    simpa [tokens, BinaryOp.tokens] using closed
  refine ⟨t.value I, u.value I, ?_, ?_, ?_⟩
  · rw [first.value?_eq, before.read (by decide), Option.map_some]
  · rw [second.value?_eq, alone.read (by decide), Option.map_some]
  · rw [grouped.value? (.binary .and first second), value]

end Expr

end TypedSql
