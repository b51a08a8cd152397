import SheetExport.Cell.Reference
import SheetExport.Proofs.Text.Numeral

/-! # References read back

The letters of a column denote its number, and in a reference they end where the digits of the row begin. So no two
places of a sheet have one reference.
-/

namespace SheetExport

theorem mem_bijectiveLetters (n : Nat) : ∀ c ∈ bijectiveLetters n, 'A' ≤ c ∧ c ≤ 'Z' := by
  induction n using bijectiveLetters.induct with
  | case1 => simp [bijectiveLetters]
  | case2 n positive ih =>
      intro c inside
      rw [bijectiveLetters, if_neg positive] at inside
      cases List.mem_append.mp inside with
      | inl earlier => exact ih c earlier
      | inr last =>
          have digit : ∀ d < 26, 'A' ≤ letterOf d ∧ letterOf d ≤ 'Z' := by decide
          rw [List.mem_singleton.mp last]
          exact digit _ (Nat.mod_lt _ (by decide))

/-- Letters denote the number that they were written for. -/
theorem columnNumber_bijectiveLetters (n : Nat) : columnNumber (bijectiveLetters n) = n := by
  induction n using bijectiveLetters.induct with
  | case1 => simp [bijectiveLetters, columnNumber]
  | case2 n positive ih =>
      have digit : ∀ d < 26, (letterOf d).toNat - 'A'.toNat = d := by decide
      have last := digit ((n - 1) % 26) (Nat.mod_lt _ (by decide))
      rw [columnNumber] at ih ⊢
      rw [bijectiveLetters, if_neg positive, List.foldl_append, ih, List.foldl_cons, List.foldl_nil, last]
      omega

/-- The characters of a reference: the letters of the column, then the digits of the row. -/
theorem toList_cellReference (row column : Nat) :
    (cellReference row column).toList = bijectiveLetters (column + 1) ++ Nat.toDigits 10 (row + 1) := by
  have digits : (toString (row + 1)).toList = Nat.toDigits 10 (row + 1) := Nat.toList_repr
  rw [cellReference, columnLetters, String.toList_append, String.toList_ofList, digits]

/-- The letters are what comes before the first digit. -/
theorem split_cellReference (row column : Nat) :
    (cellReference row column).toList.takeWhile (fun c => !Text.isDigit c) = bijectiveLetters (column + 1) ∧
      (cellReference row column).toList.dropWhile (fun c => !Text.isDigit c) = Nat.toDigits 10 (row + 1) := by
  have letters : ∀ c ∈ bijectiveLetters (column + 1), (!Text.isDigit c) = true := by
    intro c inside
    have low := (mem_bijectiveLetters _ c inside).1
    have above : ¬ c ≤ '9' := fun high => absurd (Nat.le_trans low high) (by decide)
    simp [Text.isDigit, above]
  have digits : ∀ c ∈ Nat.toDigits 10 (row + 1), Text.isDigit c = true :=
    List.all_eq_true.mp (Text.isDigit_toDigits (row + 1))
  rw [toList_cellReference, List.takeWhile_append_of_pos letters, List.dropWhile_append_of_pos letters]
  cases split : Nat.toDigits 10 (row + 1) with
  | nil => exact absurd split Nat.toDigits_ne_nil
  | cons d rest =>
      have first := digits d (split ▸ List.mem_cons_self)
      rw [List.takeWhile_cons_of_neg (by simp [first]), List.dropWhile_cons_of_neg (by simp [first]), List.append_nil]
      exact ⟨rfl, rfl⟩

theorem cellReference_inj {row column row' column' : Nat} (same : cellReference row column = cellReference row' column') :
    row = row' ∧ column = column' := by
  obtain ⟨letters, digits⟩ := split_cellReference row column
  obtain ⟨letters', digits'⟩ := split_cellReference row' column'
  rw [← same, letters] at letters'
  rw [← same, digits] at digits'
  have columns := congrArg columnNumber letters'
  have rows := congrArg Text.ofDigits digits'
  rw [columnNumber_bijectiveLetters, columnNumber_bijectiveLetters] at columns
  rw [Text.ofDigits_toDigits, Text.ofDigits_toDigits] at rows
  omega

end SheetExport
