import Mathlib.Data.List.Forall2
import TypedSql.TableRef

/-! The regions of an SQL text: plain text, and texts between two marks. A question
mark is a placeholder in plain text only, so a name may hold any number of them. A
fragment is balanced when it ends in plain text with one placeholder per binding. -/
namespace TypedSql

namespace Text

/-- Where a character stands. -/
inductive Region where
  | plain
  | quoted (mark : Char)
  deriving DecidableEq, Repr

/-- The region behind a character. A doubled mark closes a text and opens it again. -/
def Region.after : Region → Char → Region
  | plain, c => if c = '"' ∨ c = '\'' then quoted c else plain
  | quoted mark, c => if c = mark then plain else quoted mark

/-- The character begins no quoted text and is no placeholder. -/
def isOrdinary (c : Char) : Bool :=
  c != '"' && c != '\'' && c != '?'

/-- The region behind a text. -/
def Region.afterAll (region : Region) (cs : List Char) : Region :=
  cs.foldl Region.after region

/-- Whether a character is a placeholder. -/
def Region.isPlaceholder (region : Region) (c : Char) : Bool :=
  region = .plain ∧ c = '?'

/-- The number of placeholders in a text that begins in a region. -/
def placeholders : Region → List Char → Nat
  | _, [] => 0
  | region, c :: rest =>
    (if region.isPlaceholder c then 1 else 0) + placeholders (region.after c) rest

/-- The text with the next value written in place of each placeholder, as long as
there are values. -/
def filled (write : Value → String) : Region → List Char → List Value → List Char
  | _, [], _ => []
  | region, c :: rest, [] => c :: filled write (region.after c) rest []
  | region, c :: rest, value :: values =>
    if region.isPlaceholder c then
      (write value).toList ++ filled write (region.after c) rest values
    else c :: filled write (region.after c) rest (value :: values)

@[simp] theorem afterAll_append (region : Region) (first second : List Char) :
    region.afterAll (first ++ second) = (region.afterAll first).afterAll second := by
  simp [Region.afterAll]

theorem placeholders_append (region : Region) (first second : List Char) :
    placeholders region (first ++ second) =
      placeholders region first + placeholders (region.afterAll first) second := by
  induction first generalizing region with
  | nil => simp [placeholders, Region.afterAll]
  | cons c rest ih => simp [placeholders, ih, Region.afterAll, Nat.add_assoc]

@[simp] theorem filled_nil (write : Value → String) (region : Region) (cs : List Char) :
    filled write region cs [] = cs := by
  induction cs generalizing region with
  | nil => rfl
  | cons c rest ih => simp [filled, ih]

/-- The values go to the part of the text whose placeholders they are for. -/
theorem filled_append (write : Value → String) (region : Region) (first second : List Char)
    (values more : List Value) (counted : placeholders region first = values.length) :
    filled write region (first ++ second) (values ++ more) =
      filled write region first values ++ filled write (region.afterAll first) second more := by
  induction first generalizing region values with
  | nil =>
    have none : values = [] := List.eq_nil_of_length_eq_zero counted.symm
    simp [none, filled, Region.afterAll]
  | cons c rest ih =>
    by_cases slot : region.isPlaceholder c
    · cases values with
      | nil => simp [placeholders, slot] at counted
      | cons value values =>
        have rests : placeholders (region.after c) rest = values.length := by
          simp only [placeholders, slot, ↓reduceIte, List.length_cons] at counted
          omega
        simp [filled, slot, ih _ values rests, Region.afterAll]
    · have rests : placeholders (region.after c) rest = values.length := by
        simpa [placeholders, slot] using counted
      have step := ih _ values rests
      cases values <;> cases more <;> simp_all [filled, Region.afterAll]

/-- The doubled marks of a quoted text leave and enter it again, so its end is the
first place to leave it for good. -/
theorem afterAll_doubled {mark : Char} (isMark : mark = '"' ∨ mark = '\'') (text : List Char) :
    (Region.quoted mark).afterAll (doubled mark text) = .quoted mark := by
  induction text with
  | nil => rfl
  | cons c rest ih =>
    by_cases same : c = mark
    · simpa [doubled, same, Region.afterAll, Region.after, isMark] using ih
    · simpa [doubled, same, Region.afterAll, Region.after] using ih

theorem placeholders_doubled {mark : Char} (isMark : mark = '"' ∨ mark = '\'') (text : List Char) :
    placeholders (.quoted mark) (doubled mark text) = 0 := by
  induction text with
  | nil => rfl
  | cons c rest ih =>
    by_cases same : c = mark
    · subst same
      have notSlot : c ≠ '?' := by rintro rfl; simp at isMark
      simpa [doubled, placeholders, Region.after, Region.isPlaceholder, isMark, notSlot] using ih
    · simpa [doubled, same, placeholders, Region.after, Region.isPlaceholder] using ih

end Text

namespace Fragment

open Text (Region placeholders filled)

/-- The template ends in plain text and has one placeholder per binding. -/
structure Balanced (f : Fragment) : Prop where
  closed : Region.plain.afterAll f.template.toList = .plain
  counted : placeholders .plain f.template.toList = f.bindings.length

instance (f : Fragment) : Decidable f.Balanced :=
  decidable_of_iff (Region.plain.afterAll f.template.toList = .plain ∧
      placeholders .plain f.template.toList = f.bindings.length)
    ⟨fun ⟨closed, counted⟩ => ⟨closed, counted⟩, fun ⟨closed, counted⟩ => ⟨closed, counted⟩⟩

/-- Writing the values of `f` in place of its placeholders, in order, gives the text of
`result`, which binds nothing any more. -/
structure WritesTo (write : Value → String) (f result : Fragment) : Prop extends f.Balanced where
  written : filled write .plain f.template.toList f.bindings = result.template.toList
  unbound : result.bindings = []

/-- One text behind the other, bindings in order. -/
instance : Append Fragment :=
  ⟨fun f g => ⟨f.template ++ g.template, f.bindings ++ g.bindings⟩⟩

@[simp] theorem template_append (f g : Fragment) :
    (f ++ g).template = f.template ++ g.template := rfl

@[simp] theorem bindings_append (f g : Fragment) :
    (f ++ g).bindings = f.bindings ++ g.bindings := rfl

/-- Text that stands in a statement as it is. -/
abbrev ofText (text : String) : Fragment :=
  { template := text }

attribute [ext] Fragment

theorem join_cons_cons (separator : String) (first second : Fragment) (rest : List Fragment) :
    join separator (first :: second :: rest) =
      first ++ (ofText separator ++ join separator (second :: rest)) := by
  ext1 <;> simp [String.append_assoc]

theorem filterMap_id_cons (clause? : Option Fragment) (clauses? : List (Option Fragment)) :
    (clause? :: clauses?).filterMap id = clause?.toList ++ clauses?.filterMap id := by
  cases clause? <;> rfl

theorem wrap_eq_append (head : String) (inner : Fragment) :
    wrap head inner = ofText head ++ (ofText "(" ++ (inner ++ ofText ")")) := by
  ext1 <;> simp [String.append_assoc]

/-- A relation that holds of related fragments put together: of ordinary text, as it is, and
of one fragment behind the other. -/
structure Congruent (R : Fragment → Fragment → Prop) : Prop where
  text {text : String} : text.toList.all Text.isOrdinary → R (ofText text) (ofText text)
  append {f g result other : Fragment} : R f result → R g other → R (f ++ g) (result ++ other)

namespace Congruent
variable {R : Fragment → Fragment → Prop} {f g result other : Fragment} (congruent : Congruent R)
include congruent

theorem join {separator : String} (between : R (ofText separator) (ofText separator))
    {parts results : List Fragment} (each : List.Forall₂ R parts results) :
    R (join separator parts) (join separator results) := by
  induction each with
  | nil => exact congruent.text rfl
  | cons first rest ih =>
    cases rest with
    | nil => simpa [Fragment.join] using first
    | cons second rest =>
      rw [join_cons_cons, join_cons_cons]
      exact congruent.append first (congruent.append between ih)

theorem wrap {head : String} (before : R (ofText head) (ofText head)) (inner : R f result) :
    R (wrap head f) (wrap head result) := by
  have opening : R (ofText "(") (ofText "(") := congruent.text (by decide)
  have closing : R (ofText ")") (ofText ")") := congruent.text (by decide)
  rw [wrap_eq_append, wrap_eq_append]
  exact congruent.append before (congruent.append opening (congruent.append inner closing))

theorem operation {op : String} (between : R (ofText op) (ofText op)) (left : R f result)
    (right : R g other) (wrapped : Bool) :
    R (operation op f g wrapped) (operation op result other wrapped) := by
  have space : R (ofText " ") (ofText " ") := congruent.text (by decide)
  have spaced : R (ofText (" " ++ op ++ " ")) (ofText (" " ++ op ++ " ")) :=
    congruent.append (congruent.append space between) space
  have bare := congruent.join spaced (.cons left (.cons right .nil))
  cases wrapped with
  | false => exact bare
  | true => exact congruent.wrap (congruent.text (by decide)) bare

theorem clauses {parts results : List Fragment} (each : List.Forall₂ R parts results) :
    R (clauses parts) (clauses results) :=
  congruent.join (congruent.text (by decide)) each

end Congruent

theorem balanced_of_ordinary {text : String} (ordinary : text.toList.all Text.isOrdinary) :
    (ofText text).Balanced := by
  have scan (cs : List Char) (ordinary : ∀ c ∈ cs, Text.isOrdinary c) :
      Region.plain.afterAll cs = .plain ∧ placeholders .plain cs = 0 := by
    induction cs with
    | nil => exact ⟨rfl, rfl⟩
    | cons c rest ih =>
      obtain ⟨first, others⟩ := List.forall_mem_cons.1 ordinary
      obtain ⟨⟨double, single⟩, mark⟩ : (c ≠ '"' ∧ c ≠ '\'') ∧ c ≠ '?' := by
        simpa [Text.isOrdinary] using first
      simpa [Region.afterAll, placeholders, Region.after, Region.isPlaceholder, double, single,
        mark] using ih others
  have whole := scan text.toList (List.all_eq_true.1 ordinary)
  exact ⟨whole.1, by simpa using whole.2⟩

section Composition
variable {write : Value → String} {f g result other : Fragment}

theorem Balanced.append (first : f.Balanced) (second : g.Balanced) : (f ++ g).Balanced where
  closed := by simp [first.closed, second.closed]
  counted := by
    simp [Text.placeholders_append, first.closed, first.counted, second.counted]

theorem WritesTo.append (first : f.WritesTo write result) (second : g.WritesTo write other) :
    (f ++ g).WritesTo write (result ++ other) where
  toBalanced := first.toBalanced.append second.toBalanced
  written := by
    simp [Text.filled_append, first.closed, first.counted, first.written, second.written]
  unbound := by simp [first.unbound, second.unbound]

theorem Balanced.ofText {text : String} (balanced : (ofText text).Balanced) :
    (ofText text).WritesTo write (.ofText text) where
  toBalanced := balanced
  written := by simp
  unbound := rfl

theorem WritesTo.bound (value : Value) : (bound value).WritesTo write (.ofText (write value)) where
  closed := by simp [Fragment.bound, Region.afterAll, Region.after]
  counted := by simp [Fragment.bound, placeholders, Region.isPlaceholder]
  written := by simp [Fragment.bound, filled, Region.isPlaceholder]
  unbound := rfl

theorem WritesTo.congruent (write : Value → String) : Congruent (WritesTo write) where
  text ordinary := (balanced_of_ordinary ordinary).ofText
  append := WritesTo.append

theorem WritesTo.join {separator : String} (balanced : (ofText separator).Balanced)
    {parts results : List Fragment} (each : List.Forall₂ (WritesTo write) parts results) :
    (join separator parts).WritesTo write (join separator results) :=
  (congruent write).join balanced.ofText each

theorem WritesTo.wrap (head : String) (balanced : (ofText head).Balanced)
    (inner : f.WritesTo write result) : (wrap head f).WritesTo write (wrap head result) :=
  (congruent write).wrap balanced.ofText inner

theorem WritesTo.between {head tail : String} (headBalanced : (ofText head).Balanced)
    (tailBalanced : (ofText tail).Balanced) (inner : f.WritesTo write result) :
    WritesTo write { f with template := head ++ (f.template ++ tail) }
      { result with template := head ++ (result.template ++ tail) } := by
  have around (inside : Fragment) :
      { inside with template := head ++ (inside.template ++ tail) } =
        ofText head ++ (inside ++ ofText tail) := by
    ext1 <;> simp
  rw [around, around]
  exact headBalanced.ofText.append (inner.append tailBalanced.ofText)

theorem WritesTo.operation (op : String) (balanced : (ofText op).Balanced)
    (left : f.WritesTo write result) (right : g.WritesTo write other) (wrapped : Bool) :
    (operation op f g wrapped).WritesTo write (operation op result other wrapped) :=
  (congruent write).operation balanced.ofText left right wrapped

theorem WritesTo.clauses {parts results : List Fragment}
    (each : List.Forall₂ (WritesTo write) parts results) :
    (clauses parts).WritesTo write (clauses results) :=
  (congruent write).clauses each

end Composition

theorem balanced_quote (name : String) : (ofText (Text.quote name)).Balanced := by
  have isMark : '"' = '"' ∨ '"' = '\'' := .inl rfl
  have inside := Text.afterAll_doubled isMark name.toList
  have none := Text.placeholders_doubled isMark name.toList
  constructor
  · simp only [Region.afterAll] at inside
    simp [Text.quote, Region.afterAll, Region.after, inside]
  · simp [Text.quote, placeholders, Region.isPlaceholder, Region.after,
      Text.placeholders_append, inside, none]

theorem WritesTo.identifier (write : Value → String) (name : String) :
    (identifier name).WritesTo write (.identifier name) :=
  (balanced_quote name).ofText

theorem ordinary_natText (n : Nat) : (Text.natText n).toList.all Text.isOrdinary := by
  refine List.all_eq_true.2 fun c member => ?_
  have digits : c ∈ Nat.toDigits 10 n := by simpa [Text.natText, Text.decimal] using member
  have digit := Nat.isDigit_of_mem_toDigits (by decide) (by decide) digits
  have unmarked : (c ≠ '"' ∧ c ≠ '\'') ∧ c ≠ '?' := by
    refine ⟨⟨?_, ?_⟩, ?_⟩ <;> rintro rfl <;> simp at digit
  simpa [Text.isOrdinary] using unmarked

theorem balanced_natText (n : Nat) : (ofText (Text.natText n)).Balanced :=
  balanced_of_ordinary (ordinary_natText n)

end Fragment

namespace TableRef

/-- The names that the table is written with. -/
def names (t : TableRef) : List String :=
  t.schema.toList ++ t.name :: t.label.toList

variable {R : Fragment → Fragment → Prop} {t : TableRef}

private theorem congruent_qualifiedName (congruent : Fragment.Congruent R)
    (each : ∀ name ∈ t.names, R (.identifier name) (.identifier name)) :
    R t.qualifiedName t.qualifiedName := by
  have name : R (.identifier t.name) (.identifier t.name) := each t.name (by simp [names])
  unfold qualifiedName
  cases found : t.schema with
  | none => exact name
  | some schema =>
    have schemaName : R (.identifier schema) (.identifier schema) :=
      each schema (by simp [names, found])
    have dot : R (.ofText ".") (.ofText ".") := congruent.text (by decide)
    have path := congruent.append (congruent.append schemaName dot) name
    have shape : Fragment.identifier schema ++ .ofText "." ++ .identifier t.name =
        { template := Text.quote schema ++ "." ++ Text.quote t.name } := by
      ext1 <;> simp [Fragment.identifier]
    rwa [shape] at path

theorem congruent_reference (congruent : Fragment.Congruent R)
    (each : ∀ name ∈ t.names, R (.identifier name) (.identifier name)) :
    R t.reference t.reference := by
  unfold reference
  cases found : t.label with
  | none => exact congruent_qualifiedName congruent each
  | some label => exact each label (by simp [names, found])

theorem congruent_declaration (congruent : Fragment.Congruent R)
    (each : ∀ name ∈ t.names, R (.identifier name) (.identifier name)) :
    R t.declaration t.declaration := by
  have introduced := congruent_qualifiedName congruent each
  unfold declaration
  cases found : t.label with
  | none => exact introduced
  | some label =>
    have word : R (.ofText "AS") (.ofText "AS") := congruent.text (by decide)
    have labelName : R (.identifier label) (.identifier label) :=
      each label (by simp [names, found])
    exact congruent.clauses (.cons introduced (.cons word (.cons labelName .nil)))

end TableRef

end TypedSql
