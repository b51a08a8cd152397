import SheetExport.Sheet.Name

/-! # Texts made into names of sheets

What becomes of a text is the name of a sheet, and a text that is one already stays as it is. Which character is the
last one is only known after a long text was cut, so the rule for apostrophes is about the ends of what is left.
-/

namespace SheetExport

/-! ## Characters -/

theorem isForbiddenInSheetName_eq_false_iff {c : Char} :
    isForbiddenInSheetName c = false ↔
      c ∉ ['[', ']', ':', '*', '?', '/', '\\'] ∧ 0x20 ≤ c.toNat ∧ (0x7F ≤ c.toNat → 0xA0 ≤ c.toNat) := by
  simp only [isForbiddenInSheetName, Text.isControl, Bool.or_eq_false_iff, List.contains_eq_mem,
    decide_eq_false_iff_not, Bool.and_eq_false_iff, Nat.not_lt, Nat.not_le]
  refine and_congr_right fun _ => and_congr_right fun _ => ?_
  omega

theorem mendCharacter_allowed (c : Char) : isForbiddenInSheetName (mendCharacter c) = false := by
  rw [mendCharacter]
  split
  · decide
  · exact Bool.eq_false_iff.mpr ‹_›

/-- A blank is allowed, so a character that is replaced does not stay what it was. -/
theorem mendCharacter_eq_self_iff {c : Char} : mendCharacter c = c ↔ isForbiddenInSheetName c = false :=
  ⟨fun same => same ▸ mendCharacter_allowed c, fun allowed => if_neg (Bool.eq_false_iff.mp allowed)⟩

theorem mendEnd_allowed (c : Char) : isForbiddenInSheetName (mendEnd c) = false := by
  rw [mendEnd]
  split
  · decide
  · exact mendCharacter_allowed c

theorem mendEnd_ne_apostrophe (c : Char) : mendEnd c ≠ '\x27' := by
  rw [mendEnd]
  split
  · decide
  · rename_i other
    rw [mendCharacter]
    split
    · decide
    · exact other

theorem mendEnd_eq_self_iff {c : Char} : mendEnd c = c ↔ isForbiddenInSheetName c = false ∧ c ≠ '\x27' := by
  constructor
  · exact fun same => ⟨same ▸ mendEnd_allowed c, same ▸ mendEnd_ne_apostrophe c⟩
  · rintro ⟨allowed, other⟩
    rw [mendEnd, if_neg other, mendCharacter_eq_self_iff.mpr allowed]

/-! ## Names -/

/-- Only the characters at both ends are mended as ends. -/
theorem mendName_between (first last : Char) (middle : List Char) :
    mendName (first :: (middle ++ [last])) = mendEnd first :: (middle.map mendCharacter ++ [mendEnd last]) := by
  have all : mendName (first :: (middle ++ [last])) = mendEnd first ::
      ((middle ++ [last]).dropLast.map mendCharacter ++ ((middle ++ [last]).getLast?.map mendEnd).toList) := by
    cases middle <;> rfl
  rw [all, List.dropLast_concat, List.getLast?_concat]
  rfl

/-- A text with something in it is a single character, or has two ends. -/
theorem single_or_between {cs : List Char} (some_ : cs ≠ []) :
    (∃ c, cs = [c]) ∨ ∃ first middle last, cs = first :: (middle ++ [last]) := by
  obtain ⟨first, rest, rfl⟩ := List.exists_cons_of_ne_nil some_
  rcases List.eq_nil_or_concat rest with rfl | ⟨middle, last, rfl⟩
  · exact .inl ⟨first, rfl⟩
  · exact .inr ⟨first, middle, last, by rw [List.concat_eq_append]⟩

theorem isSheetName_mendName {cs : List Char} (some_ : cs ≠ []) (short : cs.length ≤ maxSheetNameLength) :
    IsSheetName (mendName cs) := by
  rcases single_or_between some_ with ⟨c, rfl⟩ | ⟨first, middle, last, rfl⟩
  · refine ⟨Nat.le_refl 1, short, ?_, ?_, ?_⟩
    · exact List.forall_mem_singleton.mpr (mendEnd_allowed c)
    · exact fun here => mendEnd_ne_apostrophe c (Option.some.inj here)
    · exact fun here => mendEnd_ne_apostrophe c (Option.some.inj here)
  · rw [mendName_between]
    refine ⟨Nat.succ_le_succ (Nat.zero_le _), by simpa using short, ?_, ?_, ?_⟩
    · rw [List.forall_mem_cons, List.forall_mem_append, List.forall_mem_map, List.forall_mem_singleton]
      exact ⟨mendEnd_allowed first, fun c _ => mendCharacter_allowed c, mendEnd_allowed last⟩
    · exact fun here => mendEnd_ne_apostrophe first (Option.some.inj here)
    · rw [← List.cons_append, List.getLast?_concat]
      exact fun here => mendEnd_ne_apostrophe last (Option.some.inj here)

theorem mendName_of_isSheetName {cs : List Char} (named : IsSheetName cs) : mendName cs = cs := by
  obtain ⟨long, -, allowed, front, back⟩ := named
  rcases single_or_between (List.ne_nil_of_length_pos long) with ⟨c, rfl⟩ | ⟨first, middle, last, rfl⟩
  · have kept := mendEnd_eq_self_iff.mpr ⟨allowed c List.mem_cons_self, fun here => front (congrArg some here)⟩
    rw [mendName, kept]
  · rw [← List.cons_append, List.getLast?_concat] at back
    rw [List.forall_mem_cons, List.forall_mem_append, List.forall_mem_singleton] at allowed
    obtain ⟨first_, middle_, last_⟩ := allowed
    have kept : middle.map mendCharacter = middle :=
      (List.map_congr_left fun c inside => mendCharacter_eq_self_iff.mpr (middle_ c inside)).trans (List.map_id _)
    rw [mendName_between, kept, mendEnd_eq_self_iff.mpr ⟨first_, fun here => front (congrArg some here)⟩,
      mendEnd_eq_self_iff.mpr ⟨last_, fun here => back (congrArg some here)⟩]

theorem toList_mendSheetName {name : String} (some_ : name ≠ "") :
    (mendSheetName name).toList = mendName (name.toList.take maxSheetNameLength) := by
  rw [mendSheetName, if_neg (by simpa using some_), String.toList_ofList]

theorem isSheetName_mendSheetName (name : String) : IsSheetName (mendSheetName name).toList := by
  by_cases none_ : name = ""
  · subst none_
    exact ⟨by decide, by decide, by simp [mendSheetName, isForbiddenInSheetName, Text.isControl], by decide, by decide⟩
  · rw [toList_mendSheetName none_]
    refine isSheetName_mendName ?_ (List.length_take_le _ _)
    have some_ : name.toList ≠ [] := by simpa using none_
    simp [some_, maxSheetNameLength]

theorem mendSheetName_eq_self_iff {name : String} : mendSheetName name = name ↔ IsSheetName name.toList := by
  constructor
  · exact fun same => same ▸ isSheetName_mendSheetName name
  · intro named
    have some_ : name ≠ "" := by
      rintro rfl
      exact absurd named.1 (by decide)
    rw [← String.toList_inj, toList_mendSheetName some_, List.take_of_length_le named.2.1,
      mendName_of_isSheetName named]

/-- Every text is made into the name of a sheet, which stays as it is from then on. The texts that stay as they are in
    the first place are those of 1 to 31 characters, none of them a control character or one of `[]:*?/\`, that
    neither begin nor end with an apostrophe. -/
theorem sheet_names_mended (name : String) :
    (∀ text, IsSheetName text ↔ 1 ≤ text.length ∧ text.length ≤ 31 ∧
      (∀ c ∈ text, c ∉ ['[', ']', ':', '*', '?', '/', '\\'] ∧ 0x20 ≤ c.toNat ∧ (0x7F ≤ c.toNat → 0xA0 ≤ c.toNat)) ∧
      text.head? ≠ some '\x27' ∧ text.getLast? ≠ some '\x27') ∧
    IsSheetName (mendSheetName name).toList ∧
    mendSheetName (mendSheetName name) = mendSheetName name ∧
    (mendSheetName name = name ↔ IsSheetName name.toList) := by
  refine ⟨fun text => ?_, isSheetName_mendSheetName name, ?_, mendSheetName_eq_self_iff⟩
  · simp only [IsSheetName, isForbiddenInSheetName_eq_false_iff, maxSheetNameLength]
  · exact mendSheetName_eq_self_iff.mpr (isSheetName_mendSheetName name)

end SheetExport
