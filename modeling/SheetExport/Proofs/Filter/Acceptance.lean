import SheetExport.Filter.Basic
import SheetExport.Proofs.Checks

/-! # Which filters are refused

A filter is accepted if each of its conditions is `Acceptable`, and refused for the first one that is not, with a
fault that says what is wrong with it (`Offends`).
-/

namespace SheetExport

/-! ## Predicates -/

/-- The letter of an option that a pattern may have. -/
def IsOption (c : Char) : Prop := c = 'i' ∨ c = 'm' ∨ c = 's' ∨ c = 'x'

/-- A text has something else than blank characters. -/
def HasText (s : String) : Prop := ∃ c ∈ s.toList, Text.isBlank c = false

theorem isBlankText_iff {s : String} : Text.isBlankText s = true ↔ ¬HasText s := by
  simp [Text.isBlankText, HasText]

theorem isBadOption_iff {c : Char} : (!patternOptions.contains c) = true ↔ ¬IsOption c := by
  simp [patternOptions, IsOption]

namespace Predicate

theorem noBadOption {options : Option String} (known : ∀ letters ∈ options, ∀ c ∈ letters.toList, IsOption c) :
    (options.getD "").toList.find? (fun c => !patternOptions.contains c) = none := by
  rw [List.find?_eq_none]
  intro c inside
  rw [isBadOption_iff, Classical.not_not]
  cases options with
  | none => exact nomatch inside
  | some letters => exact known letters rfl c inside

theorem firstBadOption {letters before after : List Char} {c : Char} (split : letters = before ++ c :: after)
    (options : ∀ b ∈ before, IsOption b) (bad : ¬IsOption c) :
    letters.find? (fun c => !patternOptions.contains c) = some c := by
  refine List.find?_eq_some_iff_append.mpr ⟨isBadOption_iff.mpr bad, before, after, split, fun b inside => ?_⟩
  rw [Bool.not_eq_true', ← Bool.not_eq_true, isBadOption_iff, Classical.not_not]
  exact options b inside

variable [RegexEngine]

/-- What a filter may ask of a value. -/
def Acceptable : Predicate → Prop
  | equals _ => True
  | oneOf values => 1 ≤ values.length ∧ values.length ≤ 1000
  | within bounds => bounds.above ≠ none ∨ bounds.atLeast ≠ none ∨ bounds.below ≠ none ∨ bounds.atMost ≠ none
  | like pattern options => HasText pattern ∧ pattern.length ≤ 256 ∧
      (∀ letters ∈ options, ∀ c ∈ letters.toList, IsOption c) ∧
      ∃ compiled, RegexEngine.compile (patternText pattern options) = .ok compiled

/-- What is wrong with a predicate. -/
inductive Offends : Predicate → FilterFault → Prop where
  | noValues : Offends (oneOf []) .noValues
  | manyValues {values : List CellValue} (many : 1000 < values.length) : Offends (oneOf values) .tooManyValues
  | noBound : Offends (within ⟨none, none, none, none⟩) .noBound
  | blank {pattern : String} {options : Option String} (blank : ¬HasText pattern) :
      Offends (like pattern options) .blankPattern
  | long {pattern : String} {options : Option String} (text : HasText pattern) (long : 256 < pattern.length) :
      Offends (like pattern options) .longPattern
  | badOption {pattern letters : String} {before after : List Char} {c : Char} (text : HasText pattern)
      (short : pattern.length ≤ 256) (split : letters.toList = before ++ c :: after)
      (options : ∀ b ∈ before, IsOption b) (bad : ¬IsOption c) : Offends (like pattern (some letters)) (.badOption c)
  | uncompiled {pattern : String} {options : Option String} {reason : String} (text : HasText pattern)
      (short : pattern.length ≤ 256) (known : ∀ letters ∈ options, ∀ c ∈ letters.toList, IsOption c)
      (failed : RegexEngine.compile (patternText pattern options) = .error reason) :
      Offends (like pattern options) (.badPattern reason)

/-- A pattern that is neither blank nor too long is refused for its first bad option or for not being compiled. -/
theorem check_like {pattern : String} (text : HasText pattern) (short : pattern.length ≤ 256)
    (options : Option String) :
    (like pattern options).check = match (options.getD "").toList.find? fun c => !patternOptions.contains c with
      | some c => .error (.badOption c)
      | none => match RegexEngine.compile (patternText pattern options) with
        | .ok _ => .ok ()
        | .error reason => .error (.badPattern reason) := by
  rw [check, if_neg fun blank => isBlankText_iff.mp blank text, if_neg (show ¬maxPatternLength < _ from
    Nat.not_lt_of_le short)]
  cases (options.getD "").toList.find? fun c => !patternOptions.contains c with
  | some c => rfl
  | none =>
      rw [compile]
      cases RegexEngine.compile (patternText pattern options) <;> rfl

theorem check_of_acceptable {p : Predicate} (fine : p.Acceptable) : p.check = .ok () := by
  cases p with
  | equals value => rfl
  | oneOf values =>
      have some_ : ¬values.isEmpty = true := fun empty => by simp [Acceptable, List.isEmpty_iff.mp empty] at fine
      exact (if_neg some_).trans (if_neg (Nat.not_lt_of_le fine.2))
  | within bounds =>
      refine if_neg fun empty => ?_
      simp only [Bounds.isEmpty, Bool.and_eq_true, Option.isNone_iff_eq_none] at empty
      exact fine.elim (· empty.1.1.1) (·.elim (· empty.1.1.2) (·.elim (· empty.1.2) (· empty.2)))
  | like pattern options =>
      obtain ⟨text, short, known, compiled, built⟩ := fine
      rw [check_like text short, noBadOption known, built]

theorem check_of_offends {p : Predicate} {fault : FilterFault} (offends : p.Offends fault) :
    p.check = .error fault := by
  cases offends with
  | noValues => rfl
  | @manyValues values many =>
      have some_ : ¬values.isEmpty = true := fun empty => by simp [List.isEmpty_iff.mp empty] at many
      exact (if_neg some_).trans (if_pos many)
  | noBound => rfl
  | blank blank => exact if_pos (isBlankText_iff.mpr blank)
  | long text long => exact (if_neg fun blank => isBlankText_iff.mp blank text).trans (if_pos long)
  | badOption text short split options bad =>
      rw [check_like text short, Option.getD_some, firstBadOption split options bad]
  | uncompiled text short known failed => rw [check_like text short, noBadOption known, failed]

/-- There is nothing between what is acceptable and what has something wrong with it. -/
theorem acceptable_or_offends (p : Predicate) : p.Acceptable ∨ ∃ fault, p.Offends fault := by
  cases p with
  | equals value => exact .inl trivial
  | oneOf values =>
      rcases values with _ | ⟨v, values⟩
      · exact .inr ⟨_, .noValues⟩
      · rcases Nat.lt_or_ge 1000 (v :: values).length with many | few
        · exact .inr ⟨_, .manyValues many⟩
        · exact .inl ⟨Nat.succ_le_succ (Nat.zero_le _), few⟩
  | within bounds =>
      obtain ⟨_ | _, _ | _, _ | _, _ | _⟩ := bounds
      case none.none.none.none => exact .inr ⟨_, .noBound⟩
      all_goals exact .inl (by simp [Acceptable])
  | like pattern options =>
      by_cases text : HasText pattern
      case neg => exact .inr ⟨_, .blank text⟩
      rcases Nat.lt_or_ge 256 pattern.length with long | short
      · exact .inr ⟨_, .long text long⟩
      cases found : (options.getD "").toList.find? fun c => !patternOptions.contains c with
      | some c =>
          obtain ⟨bad, before, after, split, known⟩ := List.find?_eq_some_iff_append.mp found
          cases options with
          | none => simp at split
          | some letters =>
              refine .inr ⟨_, .badOption text short split (fun b inside => ?_) (isBadOption_iff.mp bad)⟩
              have good := known b inside
              rwa [Bool.not_eq_true', ← Bool.not_eq_true, isBadOption_iff, Classical.not_not] at good
      | none =>
          have known : ∀ letters ∈ options, ∀ c ∈ letters.toList, IsOption c := by
            rintro letters rfl c inside
            exact Classical.not_not.mp fun bad => List.find?_eq_none.mp found c inside (isBadOption_iff.mpr bad)
          cases built : RegexEngine.compile (patternText pattern options) with
          | ok compiled => exact .inl ⟨text, short, known, compiled, built⟩
          | error reason => exact .inr ⟨_, .uncompiled text short known built⟩

end Predicate

/-! ## Conditions -/

/-- A letter or digit of ASCII, a dot or an underscore. -/
def PlainChar (c : Char) : Prop :=
  ('a' ≤ c ∧ c ≤ 'z') ∨ ('A' ≤ c ∧ c ≤ 'Z') ∨ ('0' ≤ c ∧ c ≤ '9') ∨ c = '.' ∨ c = '_'

def PlainKey (key : String) : Prop := key ≠ "" ∧ ∀ c ∈ key.toList, PlainChar c

theorem isKeyChar_iff {c : Char} : Filter.isKeyChar c = true ↔ PlainChar c := by
  have isAlphanum : c.isAlphanum = ((decide ('A' ≤ c ∧ c ≤ 'Z') || decide ('a' ≤ c) && decide (c ≤ 'z')) ||
      decide ('0' ≤ c) && decide (c ≤ '9')) := rfl
  simp only [Filter.isKeyChar, PlainChar, isAlphanum, Bool.or_eq_true, Bool.and_eq_true, decide_eq_true_eq, beq_iff_eq]
  grind

theorem isKey_iff {key : String} : Filter.isKey key = true ↔ PlainKey key := by
  simp [Filter.isKey, PlainKey, isKeyChar_iff]

section Conditions

variable [RegexEngine]

def FilterValue.Acceptable : FilterValue → Prop
  | .scalar _ => True
  | .predicate p => p.Acceptable
  | .nested _ => False

namespace Filter

/-- A condition that may stand in a filter. -/
def Acceptable (key : String) (value : FilterValue) : Prop := PlainKey key ∧ value.Acceptable

/-- What is wrong with a condition. -/
inductive Offends : String → FilterValue → FilterFault → Prop where
  | badKey {key : String} {value : FilterValue} (bad : ¬PlainKey key) : Offends key value (.badKey key)
  | nested {key : String} {entries : List (String × FilterValue)} (plain : PlainKey key) :
      Offends key (.nested entries) (.notScalar key)
  | predicate {key : String} {p : Predicate} {fault : FilterFault} (plain : PlainKey key) (offends : p.Offends fault) :
      Offends key (.predicate p) fault

variable {key : String} {value : FilterValue} {fault : FilterFault}

theorem checkCondition_of_acceptable (fine : Acceptable key value) : checkCondition key value = .ok () := by
  refine (if_pos (isKey_iff.mpr fine.1)).trans ?_
  cases value with
  | scalar value => rfl
  | predicate p => exact Predicate.check_of_acceptable fine.2
  | nested entries => exact fine.2.elim

theorem checkCondition_of_offends (offends : Offends key value fault) : checkCondition key value = .error fault := by
  cases offends with
  | badKey bad => exact if_neg fun plain => bad (isKey_iff.mp plain)
  | nested plain => exact if_pos (isKey_iff.mpr plain)
  | predicate plain offends => exact (if_pos (isKey_iff.mpr plain)).trans (Predicate.check_of_offends offends)

theorem acceptable_or_offends (key : String) (value : FilterValue) :
    Acceptable key value ∨ ∃ fault, Offends key value fault := by
  by_cases plain : PlainKey key
  case neg => exact .inr ⟨_, .badKey plain⟩
  cases value with
  | scalar value => exact .inl ⟨plain, trivial⟩
  | predicate p =>
      exact p.acceptable_or_offends.imp (⟨plain, ·⟩) fun ⟨fault, offends⟩ => ⟨fault, .predicate plain offends⟩
  | nested entries => exact .inr ⟨_, .nested plain⟩

theorem checkCondition_eq_ok_iff : checkCondition key value = .ok () ↔ Acceptable key value := by
  refine ⟨fun passed => ?_, checkCondition_of_acceptable⟩
  refine (acceptable_or_offends key value).resolve_right fun ⟨fault, offends⟩ => ?_
  exact nomatch passed.symm.trans (checkCondition_of_offends offends)

theorem checkCondition_eq_error_iff : checkCondition key value = .error fault ↔ Offends key value fault := by
  refine ⟨fun failed => ?_, checkCondition_of_offends⟩
  rcases acceptable_or_offends key value with fine | ⟨other, offends⟩
  · exact nomatch failed.symm.trans (checkCondition_of_acceptable fine)
  · cases failed.symm.trans (checkCondition_of_offends offends)
    exact offends

/-- A fault names the key if the key is wrong with a condition, and otherwise the value. -/
theorem Offends.toError (offends : Offends key value fault) : ∃ message shown,
    fault.toError = .validation (some "filter.key") message shown ∧ ¬PlainKey key ∨
      fault.toError = .validation (some "filter.value") message shown ∧ PlainKey key := by
  cases offends with
  | badKey bad => exact ⟨_, _, .inl ⟨rfl, bad⟩⟩
  | nested plain => exact ⟨_, _, .inr ⟨rfl, plain⟩⟩
  | predicate plain offends => cases offends <;> exact ⟨_, _, .inr ⟨rfl, plain⟩⟩

/-! ## Filters -/

theorem check_eq_ok_iff {f : Filter} : f.check = .ok () ↔ ∀ c ∈ f.conditions, Acceptable c.1 c.2 := by
  simp only [check, ← checkCondition_eq_ok_iff]
  exact forM_eq_ok_iff

theorem check_eq_error_iff {f : Filter} : f.check = .error fault ↔ ∃ before key value after,
    f.conditions = before ++ (key, value) :: after ∧ (∀ c ∈ before, Acceptable c.1 c.2) ∧ Offends key value fault := by
  simp only [check, ← checkCondition_eq_ok_iff, ← checkCondition_eq_error_iff]
  refine forM_eq_error_iff.trans ⟨?_, ?_⟩
  · rintro ⟨before, c, after, split, passed, failed⟩
    exact ⟨before, c.1, c.2, after, split, passed, failed⟩
  · rintro ⟨before, key, value, after, split, passed, failed⟩
    exact ⟨before, (key, value), after, split, passed, failed⟩

end Filter

end Conditions

end SheetExport
