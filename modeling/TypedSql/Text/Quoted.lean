/-! Text between two marks. A mark inside the text is written twice, so the text
ends at the first mark that stands alone and nothing in it can end it early. -/
namespace TypedSql.Text

/-- The text with every `mark` written twice. -/
def doubled (mark : Char) : List Char → List Char
  | [] => []
  | c :: rest => if c = mark then mark :: mark :: doubled mark rest else c :: doubled mark rest

/-- The text with other characters in place of every `c`. -/
def replaced (c : Char) (replacement text : List Char) : List Char :=
  text.flatMap fun d => if d = c then replacement else [d]

/-- The text between two marks, with the marks inside it doubled. -/
def quoteWith (mark : Char) (text : String) : String :=
  String.ofList (mark :: (doubled mark text.toList ++ [mark]))

/-- An identifier between double quotes. -/
def quote (identifier : String) : String :=
  quoteWith '"' identifier

/-- Reads a quoted text whose opening mark is already taken: the text, and what
follows the closing mark. `none` when the text is never closed. -/
def readQuoted (mark : Char) : List Char → Option (List Char × List Char)
  | [] => none
  | [c] => if c = mark then some ([], []) else none
  | c :: d :: rest =>
    if c = mark then
      if d = mark then (readQuoted mark rest).map fun (text, after) => (mark :: text, after)
      else some ([], d :: rest)
    else (readQuoted mark (d :: rest)).map fun (text, after) => (c :: text, after)

@[simp] theorem toList_quoteWith (mark : Char) (text : String) :
    (quoteWith mark text).toList = mark :: (doubled mark text.toList ++ [mark]) := by
  simp [quoteWith]

/-- Writing every mark twice is putting two marks in its place. -/
theorem replaced_eq_doubled (mark : Char) (text : List Char) :
    replaced mark [mark, mark] text = doubled mark text := by
  induction text with
  | nil => rfl
  | cons c rest ih =>
    by_cases same : c = mark
    · simpa [replaced, doubled, same] using ih
    · simpa [replaced, doubled, same] using ih

/-- Doubling is undone by reading, whatever follows, as long as it does not begin
with another mark. -/
theorem readQuoted_doubled (mark : Char) (text after : List Char)
    (ends : ∀ c ∈ after.head?, c ≠ mark) :
    readQuoted mark (doubled mark text ++ mark :: after) = some (text, after) := by
  induction text with
  | nil =>
    cases after with
    | nil => simp [doubled, readQuoted]
    | cons d rest => simp [doubled, readQuoted, ends d (by simp)]
  | cons c rest ih =>
    by_cases same : c = mark
    · subst same
      simp [doubled, readQuoted, ih]
    · obtain ⟨d, tail, shape⟩ : ∃ d tail, doubled mark rest ++ mark :: after = d :: tail := by
        cases h : doubled mark rest ++ mark :: after with
        | nil => simp at h
        | cons d tail => exact ⟨d, tail, rfl⟩
      have step : readQuoted mark (c :: d :: tail) =
          (readQuoted mark (d :: tail)).map fun (text, after) => (c :: text, after) := by
        simp [readQuoted, same]
      simp only [doubled, same, ↓reduceIte, List.cons_append, shape, step]
      rw [← shape, ih]
      rfl

end TypedSql.Text
