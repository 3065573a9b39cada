import TypedSql.Proofs.Clauses.Contained

namespace TypedSql

namespace Text

/-- The number of open parentheses behind a character. In quotes they are text. -/
def Region.depthAfter (region : Region) (depth : Nat) (c : Char) : Nat :=
  if region ≠ .plain then depth
  else if c = '(' then depth + 1
  else if c = ')' then depth - 1
  else depth

/-- The pieces of a text between the commas outside quotes and parentheses. -/
def cutFrom : Region → Nat → List Char → List (List Char)
  | _, _, [] => [[]]
  | region, depth, c :: rest =>
    if region = .plain ∧ depth = 0 ∧ c = ',' then [] :: cutFrom region depth rest
    else (cutFrom (region.after c) (region.depthAfter depth c) rest).modifyHead (c :: ·)

/-- The character opens and closes neither a quoted text nor parentheses. -/
def isLevel (c : Char) : Bool :=
  c != '"' && c != '\'' && c != '(' && c != ')'

/-- A piece without the blanks in front of it. -/
def unindented (piece : List Char) : List Char :=
  piece.dropWhile (· = ' ')

/-- The items of a list: its pieces, each from its first solid character on. -/
def items (list : String) : List String :=
  (cutFrom .plain 0 list.toList).map fun piece => String.ofList (unindented piece)

/-- Inside a quoted text nothing is cut, and the doubled marks do not end it. -/
theorem cutFrom_doubled (text rest : List Char) (depth : Nat) :
    cutFrom (.quoted '"') depth (doubled '"' text ++ rest) =
      (cutFrom (.quoted '"') depth rest).modifyHead (doubled '"' text ++ ·) := by
  induction text with
  | nil => exact congrFun List.modifyHead_id.symm _
  | cons c tail ih =>
    by_cases same : c = '"' <;>
      simp [doubled, same, cutFrom, Region.after, Region.depthAfter, ih, Function.comp_def]

end Text

namespace Fragment

open Text (Region cutFrom unindented)

/-- Inside `least` parentheses the text of the fragment is not cut: whatever follows, it goes
on outside quotes and inside as many parentheses as the text began. -/
def Uncut (least : Nat) (f : Fragment) : Prop :=
  ∀ depth ≥ least, ∀ rest, cutFrom .plain depth (f.template.toList ++ rest) =
    (cutFrom .plain depth rest).modifyHead (f.template.toList ++ ·)

/-- The text stands in a list as one item. -/
structure Item (f : Fragment) : Prop where
  uncut : f.Uncut 0
  solid : f.template.toList.head?.any (· ≠ ' ')

section Composition
variable {least : Nat} {f g : Fragment}

theorem Uncut.append (first : f.Uncut least) (second : g.Uncut least) : (f ++ g).Uncut least := by
  intro depth deep rest
  simp [first depth deep, second depth deep, Function.comp_def]

theorem Uncut.inside (uncut : f.Uncut 0) : f.Uncut least :=
  fun depth _ => uncut depth depth.zero_le

/-- Commas by themselves matter outside parentheses only. -/
theorem uncut_of_level {text : String} (level : text.toList.all Text.isLevel)
    (joint : least = 0 → ',' ∉ text.toList) : (ofText text).Uncut least := by
  intro depth deep rest
  have scan (cs : List Char) (level : ∀ c ∈ cs, Text.isLevel c) (joint : depth = 0 → ',' ∉ cs) :
      cutFrom .plain depth (cs ++ rest) = (cutFrom .plain depth rest).modifyHead (cs ++ ·) := by
    induction cs with
    | nil => exact congrFun List.modifyHead_id.symm _
    | cons c tail ih =>
      obtain ⟨first, others⟩ := List.forall_mem_cons.1 level
      have further := ih others fun outside member => joint outside (List.mem_cons_of_mem c member)
      have kept : ¬ (depth = 0 ∧ c = ',') := by
        rintro ⟨outside, rfl⟩
        exact joint outside List.mem_cons_self
      obtain ⟨⟨⟨double, single⟩, opening⟩, closing⟩ :
          ((c ≠ '"' ∧ c ≠ '\'') ∧ c ≠ '(') ∧ c ≠ ')' := by simpa [Text.isLevel] using first
      simp [cutFrom, Region.after, Region.depthAfter, double, single, opening, closing,
        kept, further, Function.comp_def]
  exact scan _ (List.all_eq_true.1 level) fun outside => joint (by omega)

theorem Uncut.join {separator : String} (between : (ofText separator).Uncut least)
    {parts : List Fragment} (each : ∀ part ∈ parts, part.Uncut least) :
    (join separator parts).Uncut least := by
  induction parts with
  | nil =>
    have nothing : (ofText "").Uncut least := uncut_of_level (by decide) fun _ => by decide
    exact nothing
  | cons part rest ih =>
    obtain ⟨first, others⟩ := List.forall_mem_cons.1 each
    cases rest with
    | nil => simpa [Fragment.join] using first
    | cons second rest =>
      rw [join_cons_cons]
      exact first.append (between.append (ih others))

theorem Uncut.wrap {head : String} (heads : (ofText head).Uncut 0) (inner : f.Uncut 1) :
    (wrap head f).Uncut 0 := by
  have enclosed : (ofText "(" ++ (f ++ ofText ")")).Uncut 0 := by
    intro depth _ rest
    simp [cutFrom, Region.after, Region.depthAfter, inner (depth + 1) (by omega), Function.comp_def]
  rw [wrap_eq_append]
  exact heads.append enclosed

theorem Item.identifier (name : String) : (identifier name).Item where
  uncut depth _ rest := by
    simp [Fragment.identifier, Text.quote, cutFrom, Region.after, Region.depthAfter,
      Text.cutFrom_doubled, Function.comp_def]
  solid := by simp [Fragment.identifier, Text.quote]

theorem Item.word {text : String} (level : text.toList.all Text.isLevel) (joint : ',' ∉ text.toList)
    (solid : text.toList.head?.any (· ≠ ' ')) : (ofText text).Item :=
  ⟨uncut_of_level level fun _ => joint, solid⟩

theorem Item.bound (value : Value) : (bound value).Item := by
  have placeholder : (ofText "?").Item := .word (by decide) (by decide) (by decide)
  exact ⟨placeholder.uncut, placeholder.solid⟩

theorem Item.append (first : f.Item) (second : g.Uncut 0) : (f ++ g).Item where
  uncut := first.uncut.append second
  solid := by
    have solid := first.solid
    cases shape : f.template.toList with
    | nil => simp [shape] at solid
    | cons c rest => simpa [shape] using solid

theorem Item.join {separator : String} (between : (ofText separator).Uncut 0) (first : f.Item)
    {rest : List Fragment} (others : ∀ part ∈ rest, part.Uncut 0) :
    (join separator (f :: rest)).Item := by
  cases rest with
  | nil => simpa [Fragment.join] using first
  | cons second rest =>
    rw [join_cons_cons]
    exact first.append (between.append (.join between others))

theorem Item.wrap {head : String} (heads : (ofText head).Uncut 0)
    (solid : head.toList.head?.all (· ≠ ' ')) (inner : f.Uncut 1) : (wrap head f).Item where
  uncut := heads.wrap inner
  solid := by
    cases shape : head.toList with
    | nil => simp [shape]
    | cons c rest => simpa [shape] using solid

theorem Item.operation {op : String} (word : (ofText op).Uncut 0) (left : f.Item) (right : g.Item)
    (wrapped : Bool) : (operation op f g wrapped).Item := by
  have space : (ofText " ").Uncut 0 := uncut_of_level (by decide) (by decide)
  have shape : ofText (" " ++ op ++ " ") = ofText " " ++ ofText op ++ ofText " " := rfl
  have spaced : (ofText (" " ++ op ++ " ")).Uncut 0 := shape ▸ (space.append word).append space
  have bare : (Fragment.join (" " ++ op ++ " ") [f, g]).Item :=
    .join spaced left (List.forall_mem_singleton.2 right.uncut)
  cases wrapped with
  | false => exact bare
  | true =>
    have nothing : (ofText "").Uncut 0 := uncut_of_level (by decide) (by decide)
    exact .wrap nothing (by decide) bare.uncut.inside

theorem Item.clauses (first : f.Item) (second : g.Item) : (clauses [f, g]).Item :=
  .join (uncut_of_level (by decide) (by decide)) first (List.forall_mem_singleton.2 second.uncut)

theorem Item.listed {head : String} (heads : (ofText head).Uncut 0)
    (solid : head.toList.head?.all (· ≠ ' ')) {parts : List Fragment}
    (each : ∀ part ∈ parts, part.Item) :
    (Fragment.wrap head (Fragment.join ", " parts)).Item := by
  have comma : (ofText ", ").Uncut 1 := uncut_of_level (by decide) (by decide)
  exact .wrap heads solid (.join comma fun part member => (each part member).uncut.inside)

theorem Item.reference (table : TableRef) : table.reference.Item := by
  have dot : (ofText ".").Uncut 0 := uncut_of_level (by decide) (by decide)
  unfold TableRef.reference
  cases table.label with
  | some label => exact .identifier label
  | none =>
    unfold TableRef.qualifiedName
    cases table.schema with
    | none => exact .identifier table.name
    | some schema =>
      have path := ((Item.identifier schema).append dot).append (Item.identifier table.name).uncut
      exact ⟨path.uncut, path.solid⟩

theorem Item.unindented (item : f.Item) :
    Text.unindented f.template.toList = f.template.toList := by
  have solid := item.solid
  cases shape : f.template.toList with
  | nil => rfl
  | cons c rest => simp_all [Text.unindented]

theorem Item.items_singleton (item : f.Item) : Text.items f.template = [f.template] := by
  have pieces := item.uncut 0 (Nat.le_refl 0) []
  rw [List.append_nil] at pieces
  simp [Text.items, pieces, cutFrom, item.unindented]

/-- A comma ends an item, and the blank behind it belongs to none. -/
theorem Item.items_comma (item : f.Item) (list : String) :
    Text.items (f.template ++ (", " ++ list)) = f.template :: Text.items list := by
  have pieces := item.uncut 0 (Nat.le_refl 0) (',' :: ' ' :: list.toList)
  have indented (texts : List (List Char)) :
      (texts.modifyHead (' ' :: ·)).map (fun piece => String.ofList (Text.unindented piece)) =
        texts.map fun piece => String.ofList (Text.unindented piece) := by
    cases texts <;> simp [Text.unindented]
  simp [Text.items, pieces, cutFrom, Region.after, Region.depthAfter, item.unindented, indented]

theorem items_join {parts : List Fragment} (nonempty : parts ≠ [])
    (each : ∀ part ∈ parts, part.Item) :
    Text.items (join ", " parts).template = parts.map template := by
  induction parts with
  | nil => exact absurd rfl nonempty
  | cons part rest ih =>
    obtain ⟨first, others⟩ := List.forall_mem_cons.1 each
    cases rest with
    | nil => simpa [Fragment.join] using first.items_singleton
    | cons second rest =>
      rw [join_cons_cons, template_append, template_append, first.items_comma,
        ih (List.cons_ne_nil _ _) others]
      rfl

end Composition

end Fragment

namespace Expr

open Fragment (Item Uncut ofText uncut_of_level)

theorem item_intervalTest {item : Fragment} (solid : item.Item) (interval : Interval Value) :
    (intervalTest item interval).Item := by
  have test (op : String) (word : (ofText op).Uncut 0) (value : Value) :
      (Fragment.operation op item (.bound value) false).Item :=
    .operation word solid (.bound value) false
  have above := test ">=" (uncut_of_level (by decide) (by decide))
  have below := test "<" (uncut_of_level (by decide) (by decide))
  have both : (ofText "AND").Uncut 0 ∧ (ofText " AND ").Uncut 0 ∧ (ofText "BETWEEN").Uncut 0 :=
    ⟨uncut_of_level (by decide) (by decide), uncut_of_level (by decide) (by decide),
      uncut_of_level (by decide) (by decide)⟩
  rw [intervalTest_eq]
  cases interval with
  | closed low high =>
    exact .operation both.2.2 solid (.operation both.1 (.bound low) (.bound high) false) false
  | halfOpen low high =>
    exact .join both.2.1 (above low) (List.forall_mem_singleton.2 (below high).uncut)
  | atMost high => exact test "<=" (uncut_of_level (by decide) (by decide)) high
  | below high => exact below high
  | atLeast low => exact above low

private theorem uncut_symbol (op : BinaryOp) : (ofText op.symbol).Uncut 0 := by
  cases op <;> exact uncut_of_level (by decide) (by decide)

mutual

/-- An expression without text from outside is one item of a list. -/
theorem item_fragment : (e : Expr) → e.raws = [] → e.fragment.Item
  | column name, _ => .identifier name
  | qualified table item, free => by
    have inner := item_fragment item free
    have dot : (ofText ".").Uncut 0 := uncut_of_level (by decide) (by decide)
    exact .join dot (.reference table) (List.forall_mem_singleton.2 inner.uncut)
  | bound value, _ => .bound value
  | null, _ | star, _ | rowid, _ => .word (by decide) (by decide) (by decide)
  | countAll, _ => by
    have head : (ofText "count").Uncut 0 := uncut_of_level (by decide) (by decide)
    have star : (ofText "*").Uncut 1 := uncut_of_level (by decide) (by decide)
    have shape : countAll.fragment = .wrap "count" (ofText "*") := by ext1 <;> decide
    rw [shape]
    exact .wrap head (by decide) star
  | binary op left right, free => by
    obtain ⟨first, second⟩ := List.append_eq_nil_iff.1 free
    exact .operation (uncut_symbol op) (item_fragment left first) (item_fragment right second) true
  | unary op operand, free => by
    have inner := item_fragment operand free
    cases op <;> exact .wrap (uncut_of_level (by decide) (by decide)) (by decide) inner.uncut.inside
  | member negated item values, free => by
    have each : ∀ part ∈ values.map Fragment.bound, part.Item := by simp [Item.bound]
    have nothing : (ofText "").Uncut 0 := uncut_of_level (by decide) (by decide)
    have word : (ofText (if negated then "NOT IN" else "IN")).Uncut 0 := by
      cases negated <;> exact uncut_of_level (by decide) (by decide)
    exact .operation word (item_fragment item free) (.listed nothing (by decide) each) true
  | within item interval, free => item_intervalTest (item_fragment item free) interval
  | aggregate function item, free => by
    have inner := item_fragment item free
    cases function <;>
      exact .wrap (uncut_of_level (by decide) (by decide)) (by decide) inner.uncut.inside
  | distinct item, free => by
    have word : (ofText "DISTINCT").Item := .word (by decide) (by decide) (by decide)
    rw [fragment_distinct]
    exact .clauses word (item_fragment item free)
  | cast item target, free => by
    have type : (ofText ("AS " ++ target.keyword)).Item := by
      cases target <;> exact .word (by decide) (by decide) (by decide)
    have converted := Item.clauses (item_fragment item free) type
    rw [fragment_cast]
    exact .wrap (uncut_of_level (by decide) (by decide)) (by decide) converted.uncut.inside
  | call name arguments, free => by
    have head := Item.identifier name
    exact .listed head.uncut (by simp [Text.quote]) (item_fragments arguments free)
  | ordered item direction, free => by
    have word : (ofText direction.keyword).Item := by
      cases direction <;> exact .word (by decide) (by decide) (by decide)
    exact .clauses (item_fragment item free) word
  | raw fragment, free => by simp [raws] at free
  | joined separator items, free => by simp [raws] at free
  | operation op left right wrapped, free => by simp [raws] at free
  | wrap head item, free => by simp [raws] at free

theorem item_fragments :
    (items : List Expr) → rawsAll items = [] → ∀ part ∈ fragments items, part.Item
  | [], _ => by simp [fragments]
  | item :: rest, free => by
    obtain ⟨first, others⟩ := List.append_eq_nil_iff.1 free
    exact List.forall_mem_cons.2 ⟨item_fragment item first, item_fragments rest others⟩

end

theorem items_list {items : List Expr} (nonempty : items ≠ []) (built : ∀ e ∈ items, e.raws = []) :
    Text.items (list items).template = items.map template := by
  have each : ∀ part ∈ items.map fragment, part.Item :=
    List.forall_mem_map.2 fun e member => item_fragment e (built e member)
  rw [list, Fragment.items_join (by simpa using nonempty) each, List.map_map]
  rfl

end Expr

end TypedSql
