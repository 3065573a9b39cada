import Mathlib.Data.List.TakeWhile
import TypedSql.Database.Journal
import TypedSql.Database.Token
import TypedSql.Proofs.Digits

namespace TypedSql

open Database (isWordChar)

namespace Text

/-- Reads a text between two marks. -/
def readBetween (mark : Char) : List Char → Option (List Char × List Char)
  | [] => none
  | c :: rest => if c = mark then readQuoted mark rest else none

/-- Splits off an integer: a sign, if there is one, and all digits. -/
def splitInteger : List Char → List Char × List Char
  | '-' :: rest => ('-' :: rest.takeWhile Char.isDigit, rest.dropWhile Char.isDigit)
  | rest => (rest.takeWhile Char.isDigit, rest.dropWhile Char.isDigit)

theorem span_append {p : Char → Bool} {run rest : List Char} (all : ∀ c ∈ run, p c = true)
    (ends : ∀ c ∈ rest.head?, p c = false) :
    (run ++ rest).takeWhile p = run ∧ (run ++ rest).dropWhile p = rest := by
  induction run with
  | nil =>
    cases rest with
    | nil => exact ⟨rfl, rfl⟩
    | cons c rest => simp [ends c rfl]
  | cons c run ih =>
    obtain ⟨first, others⟩ := List.forall_mem_cons.1 all
    obtain ⟨taken, left⟩ := ih others
    simp [first, taken, left]

/-- The digits of an integer are a run of digits behind at most one sign. -/
theorem splitInteger_signedDecimal (n : Int) {rest : List Char}
    (ends : ∀ c ∈ rest.head?, c.isDigit = false) :
    splitInteger (signedDecimal n ++ rest) = (signedDecimal n, rest) := by
  have digits : ∀ c ∈ decimal n.natAbs, c.isDigit = true := fun c => isDigit_of_mem_decimal
  obtain ⟨taken, left⟩ := span_append digits ends
  unfold signedDecimal
  by_cases below : n < 0
  · simp [below, splitInteger, taken, left]
  · obtain ⟨first, others, shape, digit⟩ := decimal_eq_cons n.natAbs
    rw [if_neg below]
    unfold splitInteger
    split
    · rename_i same
      rw [shape] at same
      obtain rfl := (List.cons.inj same).1
      cases digit
    · rw [taken, left]

theorem signedDecimal_eq_cons (n : Int) :
    ∃ first others, signedDecimal n = first :: others ∧ (first = '-' ∨ first.isDigit = true) := by
  by_cases below : n < 0
  · exact ⟨'-', decimal n.natAbs, if_pos below, .inl rfl⟩
  · obtain ⟨first, others, shape, digit⟩ := decimal_eq_cons n.natAbs
    refine ⟨first, others, ?_, .inr digit⟩
    rw [signedDecimal, if_neg below, shape]

theorem readBetween_quoteWith (mark : Char) (text rest : String)
    (ends : ∀ c ∈ rest.toList.head?, c ≠ mark) :
    readBetween mark (quoteWith mark text ++ rest).toList = some (text.toList, rest.toList) := by
  have read := readQuoted_doubled mark text.toList rest.toList ends
  simp [readBetween, read]

theorem doubled_of_not_mem {mark : Char} {text : List Char} (free : mark ∉ text) :
    doubled mark text = text := by
  induction text with
  | nil => rfl
  | cons c rest ih =>
    obtain ⟨different, free⟩ := not_or.1 (List.mem_cons.not.1 free)
    rw [doubled, if_neg (Ne.symm different), ih free]

theorem hexValue?_hexDigit :
    ∀ n < 16, Json.hexValue? (hexDigit n) = some n ∧ hexDigit n ≠ '\'' := by
  decide

theorem quote_not_mem_hexBytes (bytes : List UInt8) : '\'' ∉ bytes.flatMap hexByte := by
  intro member
  obtain ⟨byte, -, digit⟩ := List.mem_flatMap.1 member
  have range : byte.toNat < 256 := byte.toNat_lt
  obtain ⟨-, high⟩ := hexValue?_hexDigit (byte.toNat / 16) (by omega)
  obtain ⟨-, low⟩ := hexValue?_hexDigit (byte.toNat % 16) (by omega)
  rcases List.mem_cons.1 digit with same | second
  · exact high same.symm
  · exact low (List.mem_singleton.1 second).symm

end Text

namespace Database.Journal

theorem int?_intText (n : Int64) : int? (Text.intText n.toInt) = some n := by
  have range : Int64.minValue.toInt ≤ n.toInt ∧ n.toInt ≤ Int64.maxValue.toInt :=
    ⟨Int64.minValue_le_toInt n, Int64.toInt_le n⟩
  have number := Text.readNat?_decimal n.toInt.natAbs
  unfold int?
  rw [Text.intText, String.toList_ofList, Text.signedDecimal]
  by_cases below : n.toInt < 0
  · have negative : -(n.toInt.natAbs : Int) = n.toInt := by omega
    simp only [below, ↓reduceIte, number, Option.pure_def, Option.map_some, negative,
      Option.bind_eq_bind, Option.bind_some, range, and_self, Int64.ofInt_toInt]
  · have positive : (n.toInt.natAbs : Int) = n.toInt := by omega
    obtain ⟨first, others, shape, digit⟩ := Text.decimal_eq_cons n.toInt.natAbs
    rw [if_neg below]
    split
    · rename_i rest same
      rw [shape] at same
      obtain rfl := (List.cons.inj same).1
      cases digit
    · simp only [number, Option.pure_def, Option.map_some, positive, Option.bind_eq_bind,
        Option.bind_some, range, and_self, ↓reduceIte, Int64.ofInt_toInt]

theorem bytes?_hexBytes (bytes : List UInt8) :
    bytes? (bytes.flatMap Text.hexByte) = some bytes := by
  induction bytes with
  | nil => rfl
  | cons byte rest ih =>
    have range : byte.toNat < 256 := byte.toNat_lt
    obtain ⟨high, -⟩ := Text.hexValue?_hexDigit (byte.toNat / 16) (by omega)
    obtain ⟨low, -⟩ := Text.hexValue?_hexDigit (byte.toNat % 16) (by omega)
    have halves : 16 * (byte.toNat / 16) + byte.toNat % 16 = byte.toNat := Nat.div_add_mod _ _
    simp only [List.flatMap_cons, Text.hexByte, List.cons_append, List.nil_append, bytes?, high,
      low, ih, halves, Option.bind_eq_bind, Option.bind_some, UInt8.ofNat_toNat]
    rfl

end Database.Journal

namespace Value

/-- Reads one literal from the front of an SQL text: the word NULL, an integer with all its
digits, a text between single quotes, or bytes between the quotes of an `X`. -/
def readLiteral : List Char → Option (Value × List Char)
  | [] => none
  | c :: rest =>
    if c = '\'' then
      (Text.readQuoted '\'' rest).map fun (content, after) => (.text (String.ofList content), after)
    else if c = 'X' ∧ rest.head? = some '\'' then do
      let (digits, after) ← Text.readBetween '\'' rest
      return (.blob (← Database.Journal.bytes? digits), after)
    else if c = '-' ∨ c.isDigit = true then do
      let (digits, after) := Text.splitInteger (c :: rest)
      return (.int (← Database.Journal.int? (String.ofList digits)), after)
    else if (c :: rest).takeWhile isWordChar = "NULL".toList then
      some (.null, (c :: rest).dropWhile isWordChar)
    else none

/-- Whether a character behind the literal of a value would belong to it. -/
def continues : Value → Char → Bool
  | null, c => isWordChar c
  | int _, c | real _, c => c.isDigit
  | text _, c | blob _, c => c = '\''

theorem literal_text (s : String) : (text s).literal = Text.quoteWith '\'' s := by
  rw [literal, Text.replaced_eq_doubled, Text.quoteWith]

section Reading
variable {rest : List Char}

theorem readLiteral_null (ends : ∀ c ∈ rest.head?, isWordChar c = false) :
    readLiteral (null.literal.toList ++ rest) = some (null, rest) := by
  have letters : ∀ c ∈ ['N', 'U', 'L', 'L'], isWordChar c = true := List.all_eq_true.1 rfl
  obtain ⟨taken, left⟩ := Text.span_append letters ends
  have word : null.literal.toList = ['N', 'U', 'L', 'L'] := by decide
  simp only [List.cons_append, List.nil_append] at taken left
  simp [word, readLiteral, taken, left]

theorem readLiteral_int (n : Int64) (ends : ∀ c ∈ rest.head?, c.isDigit = false) :
    readLiteral ((int n).literal.toList ++ rest) = some (int n, rest) := by
  have split := Text.splitInteger_signedDecimal n.toInt ends
  have whole : Database.Journal.int? (String.ofList (Text.signedDecimal n.toInt)) = some n :=
    Database.Journal.int?_intText n
  obtain ⟨first, others, shape, start⟩ := Text.signedDecimal_eq_cons n.toInt
  have notQuote : first ≠ '\'' := by rintro rfl; simp at start
  have notBytes : ¬ (first = 'X' ∧ (others ++ rest).head? = some '\'') := by
    rintro ⟨rfl, -⟩
    simp at start
  rw [literal, Text.intText, String.toList_ofList]
  rw [shape] at split whole ⊢
  rw [List.cons_append] at split ⊢
  rw [readLiteral, if_neg notQuote, if_neg notBytes, if_pos start, split]
  simp only [whole]
  rfl

theorem readLiteral_text (s : String) (ends : ∀ c ∈ rest.head?, c ≠ '\'') :
    readLiteral ((text s).literal.toList ++ rest) = some (text s, rest) := by
  have read := Text.readQuoted_doubled '\'' s.toList rest ends
  rw [literal_text, Text.toList_quoteWith]
  simp [readLiteral, read]

theorem readLiteral_blob (bytes : List UInt8) (ends : ∀ c ∈ rest.head?, c ≠ '\'') :
    readLiteral ((blob bytes).literal.toList ++ rest) = some (blob bytes, rest) := by
  have read := Text.readQuoted_doubled '\'' (bytes.flatMap Text.hexByte) rest ends
  rw [Text.doubled_of_not_mem (Text.quote_not_mem_hexBytes bytes)] at read
  rw [literal, String.toList_ofList]
  simp [readLiteral, Text.readBetween, read, Database.Journal.bytes?_hexBytes]

/-- Every literal but that of a real number ends where it was ended. -/
theorem readLiteral_literal {v : Value} (exact : ∀ x, v ≠ real x)
    (ends : ∀ c ∈ rest.head?, v.continues c = false) :
    readLiteral (v.literal.toList ++ rest) = some (v, rest) := by
  have ne_mark (apart : ∀ c ∈ rest.head?, decide (c = '\'') = false) : ∀ c ∈ rest.head?, c ≠ '\'' :=
    fun c next => of_decide_eq_false (apart c next)
  cases v with
  | null => exact readLiteral_null ends
  | int n => exact readLiteral_int n ends
  | real x => exact absurd rfl (exact x)
  | text s => exact readLiteral_text s (ne_mark ends)
  | blob bytes => exact readLiteral_blob bytes (ne_mark ends)

end Reading

end Value

/-- A literal of NULL, an integer, a text or bytes is read from its own text as the value it was
written for, whatever text follows that does not continue it, and this text is left. So is a
text between any marks, and a text is written as a literal just as between single quotes. -/
theorem literals_delimit_themselves :
    (∀ (v : Value) (rest : String), (∀ x, v ≠ .real x) →
    (∀ c ∈ rest.toList.head?, v.continues c = false) →
      Value.readLiteral (v.literal ++ rest).toList = some (v, rest.toList)) ∧
    (∀ (mark : Char) (s rest : String), (∀ c ∈ rest.toList.head?, c ≠ mark) →
      Text.readBetween mark (Text.quoteWith mark s ++ rest).toList = some (s.toList, rest.toList)) ∧
    ∀ s : String, (Value.text s).literal = Text.quoteWith '\'' s := by
  refine ⟨?literals, ?quoted, Value.literal_text⟩
  case literals =>
    intro v rest exact ends
    rw [String.toList_append]
    exact Value.readLiteral_literal exact ends
  case quoted =>
    intro mark s rest ends
    exact Text.readBetween_quoteWith mark s rest ends

/-- Quotes at both ends and a comment, the least integer before a decimal point, bytes before a
quoted name, NULL before a bracket, and a mark that is no quote. -/
theorem literals_delimit_themselves_injection :
    let s := "'; DROP TABLE users; --'"
    Value.readLiteral ((Value.text s).literal ++ "\" OR '1'").toList =
      some (.text s, "\" OR '1'".toList) ∧
    Value.readLiteral ((Value.int Int64.minValue).literal ++ ".5").toList =
      some (.int Int64.minValue, ".5".toList) ∧
    Value.readLiteral ((Value.blob [0, 39, 255]).literal ++ "\"a\"").toList =
      some (.blob [0, 39, 255], "\"a\"".toList) ∧
    Value.readLiteral (Value.null.literal ++ ")").toList = some (.null, ")".toList) ∧
    Text.readBetween '?' (Text.quoteWith '?' "?a?" ++ "'?").toList =
      some ("?a?".toList, "'?".toList) := by
  obtain ⟨literals, quoted, -⟩ := literals_delimit_themselves
  refine ⟨literals _ _ nofun ?_, literals _ _ nofun ?_, literals _ _ nofun ?_,
    literals _ _ nofun ?_, quoted _ _ _ ?_⟩ <;> rintro c ⟨⟩ <;> decide

end TypedSql
