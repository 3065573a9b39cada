import Mathlib.Data.String.Basic
import TypedSql.Value.Order

namespace TypedSql.Text

/-- The bytes that a text is stored and compared by. -/
def bytes (s : String) : List UInt8 :=
  s.toUTF8.data.toList

theorem bytes_eq (s : String) : bytes s = s.toList.flatMap String.utf8EncodeChar := by
  have whole := String.toByteArray_ofList (l := s.toList)
  rw [String.ofList_toList] at whole
  rw [bytes, String.toUTF8_eq_toByteArray, whole, List.utf8Encode, List.data_toByteArray]

section Codes
variable {s t : List UInt8} {m n v w : Nat} {behind : Prop}

theorem cons_ofNat_lt_iff (small : v < 256) (small' : w < 256) :
    UInt8.ofNat v :: s < UInt8.ofNat w :: t ↔ v < w ∨ v = w ∧ s < t := by
  rw [List.cons_lt_cons_iff, UInt8.lt_iff_toNat_lt, ← UInt8.toNat_inj,
    UInt8.toNat_ofNat_of_lt' small, UInt8.toNat_ofNat_of_lt' small']

/-- A byte that is not the first of its code holds six bits. -/
theorem cons_bits_lt_iff : UInt8.ofNat (m % 64 + 128) :: s < UInt8.ofNat (n % 64 + 128) :: t ↔
    m % 64 < n % 64 ∨ m % 64 = n % 64 ∧ s < t := by
  rw [cons_ofNat_lt_iff (by omega) (by omega), Nat.add_lt_add_iff_right, Nat.add_right_cancel_iff]

theorem bits_lt_iff :
    m / 64 < n / 64 ∨ m / 64 = n / 64 ∧ (m % 64 < n % 64 ∨ m % 64 = n % 64 ∧ behind) ↔
    m < n ∨ m = n ∧ behind := by
  by_cases holds : behind
  · simp only [holds, and_true]
    omega
  · simp only [holds, and_false, or_false]
    omega

end Codes

/-- Codes are ordered like their characters, whatever stands behind them. -/
theorem utf8EncodeChar_append_lt_iff (a b : Char) (s t : List UInt8) :
    String.utf8EncodeChar a ++ s < String.utf8EncodeChar b ++ t ↔ a < b ∨ a = b ∧ s < t := by
  have range (c : Char) : c.val.toNat < 1114112 := by
    have valid : c.val.toNat < 55296 ∨ 57343 < c.val.toNat ∧ c.val.toNat < 1114112 := c.valid
    omega
  have rangeA := range a
  have rangeB := range b
  rw [Char.lt_def, UInt32.lt_iff_toNat_lt, ← Char.toNat_inj]
  change _ ↔ a.val.toNat < b.val.toNat ∨ a.val.toNat = b.val.toNat ∧ _
  unfold String.utf8EncodeChar
  generalize a.val.toNat = m at *
  generalize b.val.toNat = n at *
  have above {v w : Nat} {p : Prop} (lead : v < w) (less : m < n) : v < w ∨ v = w ∧ p ↔
      m < n ∨ m = n ∧ s < t :=
    iff_of_true (.inl lead) (.inl less)
  have below {v w : Nat} {p : Prop} (lead : w < v) (less : n < m) : v < w ∨ v = w ∧ p ↔
      m < n ∨ m = n ∧ s < t :=
    iff_of_false (by omega) (by omega)
  have deep : m / 4096 = m / 64 / 64 ∧ n / 4096 = n / 64 / 64 ∧ m / 262144 = m / 64 / 64 / 64 ∧
      n / 262144 = n / 64 / 64 / 64 := by omega
  simp only
  split_ifs <;> simp only [List.cons_append, List.nil_append] <;>
    rw [cons_ofNat_lt_iff (by omega) (by omega)]
  · exact above (by omega) (by omega)
  · exact above (by omega) (by omega)
  · exact above (by omega) (by omega)
  · exact below (by omega) (by omega)
  · have lead : m / 64 < 32 ∧ n / 64 < 32 := by omega
    rw [Nat.mod_eq_of_lt lead.1, Nat.mod_eq_of_lt lead.2, Nat.add_lt_add_iff_right,
      Nat.add_right_cancel_iff, cons_bits_lt_iff, bits_lt_iff]
  · exact above (by omega) (by omega)
  · exact above (by omega) (by omega)
  · exact below (by omega) (by omega)
  · exact below (by omega) (by omega)
  · have lead : m / 64 / 64 < 16 ∧ n / 64 / 64 < 16 := by omega
    rw [deep.1, deep.2.1, Nat.mod_eq_of_lt lead.1, Nat.mod_eq_of_lt lead.2,
      Nat.add_lt_add_iff_right, Nat.add_right_cancel_iff, cons_bits_lt_iff, cons_bits_lt_iff,
      bits_lt_iff, bits_lt_iff]
  · exact above (by omega) (by omega)
  · exact below (by omega) (by omega)
  · exact below (by omega) (by omega)
  · exact below (by omega) (by omega)
  · have lead : m / 64 / 64 / 64 < 8 ∧ n / 64 / 64 / 64 < 8 := by omega
    rw [deep.2.2.1, deep.2.2.2, deep.1, deep.2.1, Nat.mod_eq_of_lt lead.1, Nat.mod_eq_of_lt lead.2,
      Nat.add_lt_add_iff_right, Nat.add_right_cancel_iff, cons_bits_lt_iff, cons_bits_lt_iff,
      cons_bits_lt_iff, bits_lt_iff, bits_lt_iff, bits_lt_iff]

/-- Comparing texts by their bytes is comparing them by their characters. -/
theorem bytes_lt_iff (s t : String) : bytes s < bytes t ↔ s < t := by
  rw [String.lt_iff_toList_lt, bytes_eq, bytes_eq]
  generalize s.toList = as
  generalize t.toList = bs
  induction as generalizing bs with
  | nil =>
    cases bs with
    | nil => simp
    | cons b bs =>
      obtain ⟨first, rest, code⟩ :=
        List.exists_cons_of_ne_nil (String.utf8EncodeChar_ne_nil (c := b))
      simp [code]
  | cons a as ih =>
    cases bs with
    | nil => simp
    | cons b bs =>
      rw [List.flatMap_cons, List.flatMap_cons, utf8EncodeChar_append_lt_iff,
        List.cons_lt_cons_iff, ih]

end TypedSql.Text
