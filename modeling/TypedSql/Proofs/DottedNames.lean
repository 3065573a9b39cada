import Mathlib.Data.List.Infix
import TypedSql.Proofs.QualifiedNames

namespace TypedSql

namespace Text

/-- The identifiers of a path in quotes, with dots between them. -/
def dotted (path : List String) : String :=
  ".".intercalate (path.map quote)

/-- The identifiers of a path in quotes, each behind a dot. -/
def behindDots (path : List String) : List Char :=
  path.flatMap fun name => '.' :: (quote name).toList

theorem behindDots_concat (path : List String) (name : String) :
    behindDots (path ++ [name]) = behindDots path ++ '.' :: (quote name).toList := by
  simp [behindDots]

theorem toList_dotted_cons (first : String) (rest : List String) :
    (dotted (first :: rest)).toList = (quote first).toList ++ behindDots rest := by
  induction rest generalizing first with
  | nil => simp [dotted, behindDots]
  | cons second rest ih =>
    have others := ih second
    simp only [dotted, List.map_cons, String.intercalate_cons_cons, String.toList_append]
      at others ⊢
    rw [others]
    simp [behindDots]

theorem dot_dotted {path : List String} (nonempty : path ≠ []) :
    '.' :: (dotted path).toList = behindDots path := by
  cases path with
  | nil => exact absurd rfl nonempty
  | cons first rest =>
    rw [toList_dotted_cons]
    rfl

/-- A quoted identifier alone ends in no dot and another one. -/
theorem not_suffix_quote (before : List Char) (name first : String) :
    before ++ '.' :: (quote name).toList ≠ (quote first).toList := by
  intro same
  refine quote_ne_qualify first (String.ofList before) name ?_
  rw [← String.toList_inj, toList_qualify, String.toList_ofList]
  exact same.symm

theorem append_dot_quote_inj {before other : List Char} {name last : String} :
    before ++ '.' :: (quote name).toList = other ++ '.' :: (quote last).toList ↔
      before = other ∧ name = last := by
  have qualified := @qualify_inj (String.ofList before) (String.ofList other) name last
  rw [← String.toList_inj, ← String.toList_inj, toList_qualify, toList_qualify] at qualified
  simpa only [String.toList_ofList] using qualified

/-- The text of a path ends in identifiers behind dots where the path does, its first
identifier apart. The induction takes identifiers off both ends: a quoted one can be
told from what stands before it whatever characters it holds. -/
theorem behindDots_suffix_iff {wanted rest : List String} {first : String} :
    behindDots wanted <:+ (quote first).toList ++ behindDots rest ↔ wanted <:+ rest := by
  induction wanted using List.reverseRecOn generalizing rest with
  | nil => simp [behindDots]
  | append_singleton wanted name ih =>
    rcases List.eq_nil_or_concat rest with rfl | ⟨front, last, rfl⟩
    · constructor
      · rintro ⟨before, same⟩
        rw [behindDots_concat, ← List.append_assoc] at same
        simp only [behindDots, List.flatMap_nil, List.append_nil] at same
        exact absurd same (not_suffix_quote _ name first)
      · intro suffix
        simp at suffix
    · rw [List.concat_eq_append, behindDots_concat, behindDots_concat]
      constructor
      · rintro ⟨before, same⟩
        rw [← List.append_assoc, ← List.append_assoc, append_dot_quote_inj] at same
        obtain ⟨fronts, rfl⟩ := same
        obtain ⟨others, rfl⟩ := ih.1 ⟨before, fronts⟩
        exact ⟨others, (List.append_assoc others wanted [name]).symm⟩
      · rintro ⟨others, same⟩
        rw [← List.append_assoc] at same
        obtain ⟨rfl, lasts⟩ := List.append_inj' same rfl
        obtain rfl : name = last := List.singleton_inj.1 lasts
        obtain ⟨before, fronts⟩ := ih.2 ⟨others, rfl⟩
        exact ⟨before, by rw [← List.append_assoc, fronts, List.append_assoc]⟩

/-- One path is the end of another one, and shorter. -/
def Ends (wanted path : List String) : Prop :=
  wanted <:+ path ∧ wanted ≠ path

instance (wanted path : List String) : Decidable (Ends wanted path) := by
  unfold Ends
  infer_instance

theorem dotted_suffix_iff {wanted path : List String} (asked : wanted ≠ []) (nonempty : path ≠ []) :
    ('.' :: (dotted wanted).toList) <:+ (dotted path).toList ↔ Ends wanted path := by
  cases path with
  | nil => exact absurd rfl nonempty
  | cons first rest =>
    rw [dot_dotted asked, toList_dotted_cons, behindDots_suffix_iff, Ends, List.suffix_cons_iff]
    constructor
    · intro suffix
      refine ⟨.inr suffix, ?_⟩
      rintro rfl
      exact absurd suffix.length_le (Nat.not_succ_le_self rest.length)
    · rintro ⟨same | suffix, different⟩
      · exact absurd same different
      · exact suffix

/-- A path can be read off its text in one way. -/
theorem dotted_inj {path other : List String} (nonempty : path ≠ []) (otherNonempty : other ≠ []) :
    dotted path = dotted other ↔ path = other := by
  constructor
  · intro same
    have ends {path other : List String} (same : behindDots path = behindDots other) :
        path <:+ other := by
      have suffix : behindDots path <:+ (quote "").toList ++ behindDots other := by
        rw [same]
        exact List.suffix_append _ _
      exact behindDots_suffix_iff.1 suffix
    have texts : behindDots path = behindDots other := by
      rw [← dot_dotted nonempty, ← dot_dotted otherNonempty, same]
    have first := ends texts
    exact first.eq_of_length_le (ends texts.symm).length_le
  · rintro rfl
    rfl

end Text

end TypedSql
