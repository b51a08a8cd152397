import SheetExport.Proofs.Text.Numeral
import SheetExport.Text.Blank

/-! # What texts spell

A text may have blank characters around what it is about (`Wraps`). To trim it leaves that alone, so it is read exactly
if there is something readable in it that neither begins nor ends with a blank.
-/

namespace SheetExport.Text

variable {s : String} {body before after : List Char}

/-! ## Blank ends -/

/-- There is nothing but blank characters around something in a text. -/
def Wraps (s : String) (body : List Char) : Prop :=
  ∃ before after, s.toList = before ++ body ++ after ∧ (∀ c ∈ before, isBlank c = true) ∧ ∀ c ∈ after, isBlank c = true

/-- Neither end is blank. -/
structure Tight (body : List Char) : Prop where
  some_ : body ≠ []
  front : ∀ c ∈ body.head?, isBlank c = false
  back : ∀ c ∈ body.getLast?, isBlank c = false

theorem Tight.reverse (tight : Tight body) : Tight body.reverse where
  some_ := mt List.reverse_eq_nil_iff.mp tight.some_
  front c first := tight.back c (List.head?_reverse ▸ first)
  back c last := tight.front c (List.getLast?_reverse ▸ last)

theorem dropWhile_blank (blank : ∀ c ∈ before, isBlank c = true) (tight : Tight body) (after : List Char) :
    (before ++ (body ++ after)).dropWhile isBlank = body ++ after := by
  obtain ⟨c, rest, rfl⟩ := List.exists_cons_of_ne_nil tight.some_
  have solid : ¬isBlank c = true := Bool.eq_false_iff.mp (tight.front c rfl)
  rw [List.dropWhile_append_of_pos blank, List.cons_append, List.dropWhile_cons_of_neg solid]

theorem wraps_trim (s : String) : Wraps s (trim s).toList := by
  let rest := s.toList.dropWhile isBlank
  refine ⟨s.toList.takeWhile isBlank, (rest.reverse.takeWhile isBlank).reverse, ?_, fun c inside => ?_,
    fun c inside => ?_⟩
  · have back : (rest.reverse.dropWhile isBlank).reverse ++ (rest.reverse.takeWhile isBlank).reverse = rest := by
      rw [← List.reverse_append, List.takeWhile_append_dropWhile, List.reverse_reverse]
    rw [trim, String.toList_ofList, List.append_assoc, back, List.takeWhile_append_dropWhile]
  · exact List.all_eq_true.mp List.all_takeWhile c inside
  · exact List.all_eq_true.mp List.all_takeWhile c (List.mem_reverse.mp inside)

theorem trim_of_wraps (wraps : Wraps s body) (tight : Tight body) : (trim s).toList = body := by
  obtain ⟨before, after, whole, front, back⟩ := wraps
  have turned : (body ++ after).reverse = after.reverse ++ (body.reverse ++ []) := by simp
  rw [trim, String.toList_ofList, whole, List.append_assoc, dropWhile_blank front tight, turned,
    dropWhile_blank (fun c inside => back c (List.mem_reverse.mp inside)) tight.reverse, List.append_nil,
    List.reverse_reverse]

/-- What is true of something in a text without blank ends is true of the trimmed text. -/
theorem exists_wraps_iff {P : List Char → Prop} (tight : ∀ body, P body → Tight body) :
    (∃ body, Wraps s body ∧ P body) ↔ P (trim s).toList :=
  ⟨fun ⟨_, wraps, holds⟩ => trim_of_wraps wraps (tight _ holds) ▸ holds, fun holds => ⟨_, wraps_trim s, holds⟩⟩

/-! ## Numbers -/

def SpellsNumber (s : String) (n : Nat) : Prop := ∃ body, Wraps s body ∧ IsNumeral body n

theorem solid_of_digit {c : Char} (digit : '0' ≤ c ∧ c ≤ '9') : isBlank c = false := by
  simp [isBlank, Char.le_def, UInt32.le_iff_toNat_le] at digit ⊢
  omega

theorem IsNumeral.tight {n : Nat} (numeral : IsNumeral body n) : Tight body := by
  obtain ⟨digits, signed, some_, digit, -⟩ := numeral
  have solid (c : Char) (inside : c ∈ digits) : isBlank c = false := solid_of_digit (digit c inside)
  rcases signed with rfl | rfl
  · exact ⟨some_, fun c first => solid c (List.mem_of_head? first), fun c last => solid c (List.mem_of_getLast? last)⟩
  · refine ⟨List.cons_ne_nil _ _, fun c first => ?_, fun c last => ?_⟩
    · cases first
      decide
    · rw [List.getLast?_cons_of_ne_nil some_] at last
      exact solid c (List.mem_of_getLast? last)

/-- A number is read from a trimmed text exactly if the text spells it. -/
theorem readWord?_trim_eq_some_iff {n : Nat} : readWord? (trim s) = some n ↔ SpellsNumber s n :=
  readWord?_eq_some_iff.trans (exists_wraps_iff fun _ => IsNumeral.tight).symm

end SheetExport.Text
