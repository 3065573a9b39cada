import TypedSql.Proofs.Clauses.Lexeme

namespace TypedSql

namespace Clauses

/-- The clauses behind the arms of a statement. -/
inductive Clause where
  | union
  | order
  | limit
  /-- Another way to combine arms. -/
  | other
  deriving DecidableEq

/-- The words that clauses begin with. -/
def Clause.words : List (String × Clause) :=
  [("UNION", .union), ("ORDER", .order), ("LIMIT", .limit), ("EXCEPT", .other),
    ("INTERSECT", .other)]

namespace Lexeme

/-- Keywords may be written in either case. -/
def isWord (keyword : String) : Lexeme → Bool
  | word letters => letters.map Char.toUpper = keyword.toList
  | _ => false

def clause? (l : Lexeme) : Option Clause :=
  (Clause.words.find? fun entry => l.isWord entry.1).map Prod.snd

/-- The number of open parentheses behind a lexeme. -/
def depthAfter (depth : Nat) : Lexeme → Option Nat
  | stray => none
  | symbol c =>
    if c = '(' then some (depth + 1)
    else if c = ')' then if depth = 0 then none else some (depth - 1)
    else some depth
  | _ => some depth

/-- The same, where no clause may begin outside of parentheses. -/
def depthWithin (depth : Nat) (l : Lexeme) : Option Nat :=
  if depth = 0 ∧ l.clause?.isSome then none else l.depthAfter depth

theorem depthAfter_add {l : Lexeme} {depth behind : Nat} (found : l.depthAfter depth = some behind)
    (more : Nat) : l.depthAfter (depth + more) = some (behind + more) := by
  cases l with
  | stray => cases found
  | word | quoted | bound =>
    obtain rfl : depth = behind := Option.some.inj found
    rfl
  | symbol c =>
    simp only [depthAfter] at found ⊢
    split_ifs at found ⊢ with opening closing outside deeper <;> simp_all <;> omega

end Lexeme

/-- The number of open parentheses behind a text that begins no clause outside of them. -/
def level (depth : Nat) (lexemes : List Lexeme) : Option Nat :=
  lexemes.foldlM Lexeme.depthWithin depth

theorem level_append {first second : List Lexeme} {depth between behind : Nat}
    (front : level depth first = some between) (back : level between second = some behind) :
    level depth (first ++ second) = some behind := by
  simp only [level, List.foldlM_append] at front back ⊢
  rw [front]
  exact back

theorem level_add {lexemes : List Lexeme} {depth behind : Nat}
    (found : level depth lexemes = some behind)
    (more : Nat) : level (depth + more) lexemes = some (behind + more) := by
  induction lexemes generalizing depth with
  | nil =>
    obtain rfl : depth = behind := Option.some.inj found
    rfl
  | cons l rest ih =>
    obtain ⟨between, here, further⟩ : ∃ between, l.depthWithin depth = some between ∧
        level between rest = some behind := by
      simpa [level, List.foldlM_cons, Option.bind_eq_some_iff] using found
    have deeper : l.depthWithin (depth + more) = some (between + more) := by
      unfold Lexeme.depthWithin at here ⊢
      split_ifs at here with begins
      have apart : ¬ (depth + more = 0 ∧ l.clause?.isSome) := fun ⟨outside, word⟩ =>
        begins ⟨by omega, word⟩
      rw [if_neg apart, Lexeme.depthAfter_add here]
    have rests := ih further
    simp only [level, List.foldlM_cons] at rests ⊢
    rw [deeper]
    exact rests

end Clauses

/-- The names that lead to a table by its name alone. -/
def TableRef.qualifiers (t : TableRef) : List String :=
  t.schema.toList ++ [t.name]

theorem TableRef.qualifiedName_eq_join (t : TableRef) :
    t.qualifiedName = .join "." (t.qualifiers.map .identifier) := by
  unfold TableRef.qualifiedName TableRef.qualifiers
  cases t.schema with
  | none => ext1 <;> simp [Fragment.identifier]
  | some schema => ext1 <;> simp [Fragment.identifier, String.append_assoc]

namespace Fragment

open Clauses (level)

/-- The fragment closes what it opens and begins no clause. -/
structure Contained (f : Fragment) : Prop extends f.Balanced where
  enclosed : level 0 f.lexemes = some 0

instance (f : Fragment) : Decidable f.Contained :=
  decidable_of_iff (f.Balanced ∧ level 0 f.lexemes = some 0)
    ⟨fun ⟨balanced, enclosed⟩ => ⟨balanced, enclosed⟩,
      fun contained => ⟨contained.toBalanced, contained.enclosed⟩⟩

namespace Contained

variable {f g : Fragment}

theorem append (first : f.Contained) (second : g.Contained) (parted : f.Parted g) :
    (f ++ g).Contained where
  toBalanced := first.toBalanced.append second.toBalanced
  enclosed := by
    rw [lexemes_append first.toBalanced parted]
    exact Clauses.level_append first.enclosed second.enclosed

theorem bound (value : Value) : (Fragment.bound value).Contained where
  toBalanced := balanced_bound value
  enclosed := by
    rw [lexemes_bound]
    rfl

theorem identifier (name : String) : (Fragment.identifier name).Contained where
  toBalanced := balanced_quote name
  enclosed := by
    rw [lexemes_identifier]
    rfl

theorem join {separator : String} (separates : Separates separator)
    (between : (ofText separator).Contained) {parts : List Fragment}
    (each : ∀ part ∈ parts, part.Contained) : (Fragment.join separator parts).Contained := by
  induction parts with
  | nil =>
    have nothing : (Fragment.ofText "").Contained := by decide
    exact nothing
  | cons part rest ih =>
    obtain ⟨first, others⟩ := List.forall_mem_cons.1 each
    cases rest with
    | nil => simpa [Fragment.join] using first
    | cons second rest =>
      rw [join_cons_cons]
      have behind := between.append (ih others) (parted_of_isComplete separates.ends)
      exact first.append behind (first.toBalanced.parted (separates.begins_append _))

/-- Parentheses enclose whatever is closed by itself. -/
theorem wrap {head : String} (heads : (Fragment.ofText head).Contained) (inner : f.Contained) :
    (Fragment.wrap head f).Contained where
  toBalanced := .wrap heads.toBalanced inner.toBalanced
  enclosed := by
    have opening : level 0 [.symbol '('] = some 1 := rfl
    have closing : level 1 [.symbol ')'] = some 0 := rfl
    rw [lexemes_wrap heads.toBalanced inner.toBalanced, List.append_cons]
    have opened := Clauses.level_append heads.enclosed opening
    exact Clauses.level_append opened
      (Clauses.level_append (Clauses.level_add inner.enclosed 1) closing)

theorem operation {op : String} (word : (Fragment.ofText op).Contained) (left : f.Contained)
    (right : g.Contained) (wrapped : Bool) : (Fragment.operation op f g wrapped).Contained := by
  have between : (Fragment.ofText (" " ++ op ++ " ")).Contained := by
    refine ⟨word.toBalanced.separates.balanced, ?_⟩
    rw [lexemes_spaced word.toBalanced]
    exact word.enclosed
  have operands : ∀ part ∈ [f, g], part.Contained := by simp [left, right]
  have bare := join word.toBalanced.separates between operands
  cases wrapped with
  | false => exact bare
  | true => exact wrap (by decide) bare

theorem clauses {parts : List Fragment} (each : ∀ part ∈ parts, part.Contained) :
    (Fragment.clauses parts).Contained :=
  join (by decide) (by decide) each

theorem list {parts : List Fragment} (each : ∀ part ∈ parts, part.Contained) :
    (Fragment.join ", " parts).Contained :=
  join (by decide) (by decide) each

theorem qualifiedName (table : TableRef) : table.qualifiedName.Contained := by
  rw [TableRef.qualifiedName_eq_join]
  exact join (by decide) (by decide) (List.forall_mem_map.2 fun name _ => identifier name)

theorem reference (table : TableRef) : table.reference.Contained := by
  unfold TableRef.reference
  cases table.label with
  | some label => exact identifier label
  | none => exact qualifiedName table

end Contained

end Fragment

namespace Expr

open Fragment (Contained ofText)

theorem fragment_distinct (item : Expr) :
    (distinct item).fragment = .clauses [ofText "DISTINCT", item.fragment] := by
  ext1 <;> simp [fragment, Fragment.clauses]

theorem fragment_cast (item : Expr) (target : DeclaredType) :
    (cast item target).fragment =
      .wrap "CAST" (.clauses [item.fragment, ofText ("AS " ++ target.keyword)]) := by
  ext1 <;> simp [fragment, Fragment.clauses, ← String.toList_inj]

theorem contained_intervalTest {item : Fragment} (contained : item.Contained)
    (interval : Interval Value) :
    (intervalTest item interval).Contained := by
  have test (op : String) (word : (ofText op).Contained) (value : Value) :
      (Fragment.operation op item (.bound value) false).Contained :=
    .operation word contained (.bound value) false
  rw [intervalTest_eq]
  cases interval with
  | closed low high =>
    exact .operation (by decide) contained
      (.operation (by decide) (.bound low) (.bound high) false) false
  | halfOpen low high =>
    have both : ∀ part ∈ [Fragment.operation ">=" item (.bound low) false,
        .operation "<" item (.bound high) false], part.Contained := by
      simp [test ">=" (by decide) low, test "<" (by decide) high]
    exact .join (by decide) (by decide) both
  | atMost high => exact test "<=" (by decide) high
  | below high => exact test "<" (by decide) high
  | atLeast low => exact test ">=" (by decide) low

mutual

/-- An expression without text from outside is contained. -/
theorem contained_fragment : (e : Expr) → e.raws = [] → e.fragment.Contained
  | column name, _ => .identifier name
  | qualified table item, free => by
    have inner := contained_fragment item free
    exact .join (by decide) (by decide) (by simp [Contained.reference, inner])
  | bound value, _ => .bound value
  | null, _ | star, _ | rowid, _ | countAll, _ => by decide
  | binary op left right, free => by
    obtain ⟨first, second⟩ := List.append_eq_nil_iff.1 free
    exact .operation (by cases op <;> decide) (contained_fragment left first)
      (contained_fragment right second) true
  | unary op operand, free => .wrap (by cases op <;> decide) (contained_fragment operand free)
  | member negated item values, free => by
    have each : ∀ part ∈ values.map Fragment.bound, part.Contained := by simp [Contained.bound]
    exact .operation (by cases negated <;> decide) (contained_fragment item free)
      (.wrap (by decide) (.list each)) true
  | within item interval, free => contained_intervalTest (contained_fragment item free) interval
  | aggregate function item, free =>
    .wrap (by cases function <;> decide) (contained_fragment item free)
  | distinct item, free => by
    have word : (ofText "DISTINCT").Contained := by decide
    rw [fragment_distinct]
    exact .clauses (by simp [word, contained_fragment item free])
  | cast item target, free => by
    have type : (ofText ("AS " ++ target.keyword)).Contained := by cases target <;> decide
    rw [fragment_cast]
    exact .wrap (by decide) (.clauses (by simp [type, contained_fragment item free]))
  | call name arguments, free => by
    have each := contained_fragments arguments free
    exact .wrap (.identifier name) (.list each)
  | ordered item direction, free => by
    have word : (ofText direction.keyword).Contained := by cases direction <;> decide
    exact .clauses (by simp [word, contained_fragment item free])
  | raw fragment, free => by simp [raws] at free
  | joined separator items, free => by simp [raws] at free
  | operation op left right wrapped, free => by simp [raws] at free
  | wrap head item, free => by simp [raws] at free

theorem contained_fragments : (items : List Expr) → rawsAll items = [] →
    ∀ part ∈ fragments items, part.Contained
  | [], _ => by simp [fragments]
  | item :: rest, free => by
    obtain ⟨first, others⟩ := List.append_eq_nil_iff.1 free
    exact List.forall_mem_cons.2 ⟨contained_fragment item first, contained_fragments rest others⟩

end

end Expr

end TypedSql
