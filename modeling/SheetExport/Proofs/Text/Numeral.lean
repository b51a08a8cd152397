import SheetExport.Text.Numeral

/-! # Numerals read back

A number is read from its numerals and from nothing else (`IsNumeral`), so one that fits into 64 bits is read from the
numeral that it is written as, and one with few enough digits from the numeral of a fixed width.
-/

namespace SheetExport.Text

theorem ofDigits_toDigits (n : Nat) : ofDigits (Nat.toDigits 10 n) = n := Nat.ofDigitChars_ten_toDigits

theorem isDigit_toDigits (n : Nat) : (Nat.toDigits 10 n).all isDigit = true := by
  rw [List.all_eq_true]
  intro c inside
  have digit := Nat.isDigit_of_mem_toDigits (by decide) (Nat.le_refl 10) inside
  simpa [isDigit, Char.isDigit, Char.le_def] using digit

theorem readDigits?_toDigits (n : Nat) : readDigits? (Nat.toDigits 10 n) = some n := by
  rw [readDigits?, if_pos ⟨Nat.toDigits_ne_nil, isDigit_toDigits n⟩, ofDigits_toDigits]

/-! ## What is read -/

/-- Digits for a number of 64 bits, with or without a plus sign in front. -/
def IsNumeral (body : List Char) (n : Nat) : Prop :=
  ∃ digits, (body = digits ∨ body = '+' :: digits) ∧ digits ≠ [] ∧ (∀ c ∈ digits, '0' ≤ c ∧ c ≤ '9') ∧
    Nat.ofDigitChars 10 digits 0 = n ∧ n < 2 ^ 64

theorem readDigits?_eq_some_iff {digits : List Char} {n : Nat} :
    readDigits? digits = some n ↔
      digits ≠ [] ∧ (∀ c ∈ digits, '0' ≤ c ∧ c ≤ '9') ∧ Nat.ofDigitChars 10 digits 0 = n := by
  have value : ofDigits digits = Nat.ofDigitChars 10 digits 0 := rfl
  have isDigits : digits.all isDigit = true ↔ ∀ c ∈ digits, '0' ≤ c ∧ c ≤ '9' := by simp [isDigit]
  simp [readDigits?, value, isDigits, and_assoc]

/-- The digits of a numeral, whose sign says nothing. -/
def unsigned : List Char → List Char
  | '+' :: digits => digits
  | digits => digits

theorem unsigned_digits {digits : List Char} (digit : ∀ c ∈ digits, '0' ≤ c ∧ c ≤ '9') : unsigned digits = digits := by
  rw [unsigned.eq_def]
  split
  · exact absurd (digit '+' List.mem_cons_self) (by decide)
  · rfl

theorem signed_or_unsigned (body : List Char) : body = unsigned body ∨ body = '+' :: unsigned body := by
  rw [unsigned.eq_def]
  split
  · exact .inr rfl
  · exact .inl rfl

theorem readWord?_eq_some_iff {s : String} {n : Nat} : readWord? s = some n ↔ IsNumeral s.toList n := by
  have read : readWord? s = (readDigits? (unsigned s.toList)).bind fun n => if n < 2 ^ 64 then some n else none := rfl
  simp only [read, Option.bind_eq_some_iff, readDigits?_eq_some_iff]
  constructor
  · rintro ⟨m, ⟨some_, digit, value⟩, fits⟩
    split at fits
    · rename_i small
      cases fits
      exact ⟨_, signed_or_unsigned _, some_, digit, value, small⟩
    · cases fits
  · rintro ⟨digits, signed, some_, digit, value, small⟩
    have own : unsigned s.toList = digits := by
      rcases signed with same | same <;> rw [same]
      · exact unsigned_digits digit
      · rfl
    rw [own]
    exact ⟨n, ⟨some_, digit, value⟩, if_pos small⟩

theorem readWord?_toString {n : Nat} (fits : n < 2 ^ 64) : readWord? (toString n) = some n := by
  obtain ⟨some_, digit, value⟩ := readDigits?_eq_some_iff.mp (readDigits?_toDigits n)
  exact readWord?_eq_some_iff.mpr ⟨_, .inl Nat.toList_repr, some_, digit, value, fits⟩

/-! ## Numerals of a fixed width -/

theorem toList_padded (width n : Nat) :
    (padded width n).toList = List.replicate (width - (Nat.toDigits 10 n).length) '0' ++ Nat.toDigits 10 n := by
  have chars : (toString n).toList = Nat.toDigits 10 n := Nat.toList_repr
  simp only [padded, String.toList_append, String.toList_ofList, ← String.length_toList, chars]

theorem length_padded {width n : Nat} (positive : 0 < width) (fits : n < 10 ^ width) :
    (padded width n).toList.length = width := by
  have short : (Nat.toDigits 10 n).length ≤ width := (Nat.length_toDigits_le_iff (by decide) positive).mpr fits
  rw [toList_padded, List.length_append, List.length_replicate]
  omega

theorem isDigit_padded (width n : Nat) : (padded width n).toList.all isDigit = true := by
  rw [toList_padded, List.all_append, isDigit_toDigits, Bool.and_true, List.all_replicate]
  split <;> rfl

theorem ofDigits_padded (width n : Nat) : ofDigits (padded width n).toList = n := by
  have zeros : ∀ k, Nat.ofDigitChars 10 (List.replicate k '0') 0 = 0 := fun k => by
    rw [Nat.ofDigitChars_replicate_zero, Nat.mul_zero]
  rw [toList_padded, show ofDigits = fun cs => Nat.ofDigitChars 10 cs 0 from rfl]
  dsimp only
  rw [Nat.ofDigitChars_append, zeros, Nat.ofDigitChars_ten_toDigits]

end SheetExport.Text
