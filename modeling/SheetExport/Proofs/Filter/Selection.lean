import SheetExport.Proofs.Filter.Acceptance

/-! # What a filter selects

A filter selects an entity if each of its conditions holds of a field that is there. That is what the tests come to into
which a filter is compiled, whatever the order of its conditions.
-/

namespace SheetExport

/-- Under a new key a condition is set behind the others. -/
theorem setCondition_new {α : Type} {key : String} {cs : List (String × α)} (new : key ∉ cs.map Prod.fst) (value : α) :
    setCondition key value cs = cs ++ [(key, value)] := by
  induction cs with
  | nil => rfl
  | cons c cs ih =>
      obtain ⟨other, new⟩ := not_or.mp (mt List.mem_cons.mpr new)
      rw [setCondition, if_neg (Ne.symm other), ih new, List.cons_append]

theorem CellValue.matchesValue_iff {a b : CellValue} : a.matchesValue b = true ↔ a.order b = some .eq := by
  rw [CellValue.matchesValue, beq_iff_eq]

/-- A bound is respected if the value has one of the accepted orders with it. -/
theorem Bounds.respects_iff {accepted : Ordering → Bool} (orders : Option Ordering → Prop) {value : CellValue}
    {bound : Option CellValue} (same : ∀ o, o.any accepted = true ↔ orders o) :
    respects value accepted bound = true ↔ ∀ b ∈ bound, orders (value.order b) := by
  cases bound with
  | none => exact iff_of_true rfl fun b inside => absurd inside (Option.not_mem_none b)
  | some b =>
      rw [respects, same]
      exact ⟨fun here _ inside => Option.mem_some.mp inside ▸ here, fun all => all b rfl⟩

variable [RegexEngine]

/-! ## What conditions mean -/

/-- What a predicate says of a value. A bound that cannot be compared with the value is not respected. -/
def Predicate.HoldsOf (value : CellValue) : Predicate → Prop
  | equals expected => value.order expected = some .eq
  | oneOf values => ∃ expected ∈ values, value.order expected = some .eq
  | within bounds =>
      (∀ bound ∈ bounds.above, value.order bound = some .gt) ∧
      (∀ bound ∈ bounds.atLeast, value.order bound = some .gt ∨ value.order bound = some .eq) ∧
      (∀ bound ∈ bounds.below, value.order bound = some .lt) ∧
      ∀ bound ∈ bounds.atMost, value.order bound = some .lt ∨ value.order bound = some .eq
  | like pattern options => ∃ s compiled, value = .text s ∧
      RegexEngine.compile (patternText pattern options) = .ok compiled ∧ RegexEngine.isMatch compiled s = true

def FilterValue.HoldsOf (value : CellValue) : FilterValue → Prop
  | scalar expected => value.order expected = some .eq
  | predicate p => p.HoldsOf value
  | nested _ => False

/-- Every condition holds of a field that is there. -/
def Filter.Selects (f : Filter) (field : String → Option CellValue) : Prop :=
  ∀ c ∈ f.conditions, ∃ value ∈ field c.1, c.2.HoldsOf value

/-! ## Tests -/

section Tests

variable {value : CellValue}

theorem Bounds.contains_iff {bounds : Bounds} :
    bounds.contains value = true ↔ (Predicate.within bounds).HoldsOf value := by
  rw [contains, Bool.and_eq_true, Bool.and_eq_true, Bool.and_eq_true, and_assoc, and_assoc, Predicate.HoldsOf,
    respects_iff (· = some .gt), respects_iff (fun o => o = some .gt ∨ o = some .eq),
    respects_iff (· = some .lt), respects_iff (fun o => o = some .lt ∨ o = some .eq)]
  all_goals rintro (_ | _ | _ | _) <;> simp

theorem Test.holds_like_iff {pattern : RegexEngine.Compiled} :
    (Test.like pattern).holds value = true ↔ ∃ s, value = .text s ∧ RegexEngine.isMatch pattern s = true := by
  cases value with
  | text s => simp [Test.holds]
  | _ => simp [Test.holds]

/-- The test that a condition makes passes what the condition holds of. -/
theorem Filter.holds_testOf_iff {key : String} {condition : FilterValue} {test : Test}
    (made : testOf key condition = .ok test) : test.holds value = true ↔ condition.HoldsOf value := by
  cases condition with
  | scalar expected =>
      cases made
      exact CellValue.matchesValue_iff
  | nested entries => cases made
  | predicate p =>
      cases p with
      | equals expected =>
          cases made
          exact CellValue.matchesValue_iff
      | oneOf values =>
          cases made
          simp [Test.holds, FilterValue.HoldsOf, Predicate.HoldsOf, CellValue.matchesValue_iff]
      | within bounds =>
          cases made
          exact Bounds.contains_iff
      | like pattern options =>
          simp only [testOf, Predicate.compile] at made
          cases built : RegexEngine.compile (patternText pattern options) with
          | error fault => rw [built] at made; cases made
          | ok compiled =>
              rw [built] at made
              cases made
              simp [Test.holds_like_iff, FilterValue.HoldsOf, Predicate.HoldsOf, built]

end Tests

instance (value : CellValue) : (p : Predicate) → Decidable (p.HoldsOf value)
  | .equals expected => inferInstanceAs (Decidable (value.order expected = some .eq))
  | .oneOf values => inferInstanceAs (Decidable (∃ expected ∈ values, value.order expected = some .eq))
  | .within bounds => decidable_of_iff (bounds.contains value = true) Bounds.contains_iff
  | .like pattern options =>
      match built : RegexEngine.compile (patternText pattern options) with
      | .error _ => .isFalse fun ⟨_, _, _, compiled, _⟩ => nomatch built.symm.trans compiled
      | .ok compiled => decidable_of_iff ((Test.like compiled).holds value = true) <| by
          rw [Test.holds_like_iff]
          simp [Predicate.HoldsOf, built]

instance (value : CellValue) : (v : FilterValue) → Decidable (v.HoldsOf value)
  | .scalar expected => inferInstanceAs (Decidable (value.order expected = some .eq))
  | .predicate p => inferInstanceAs (Decidable (p.HoldsOf value))
  | .nested _ => inferInstanceAs (Decidable False)

instance (f : Filter) (field : String → Option CellValue) : Decidable (f.Selects field) :=
  inferInstanceAs (Decidable (∀ c ∈ f.conditions, ∃ value ∈ field c.1, c.2.HoldsOf value))

namespace Filter

/-! ## Compiled filters -/

variable {f g : Filter} {tests : List (String × Test)} {field : String → Option CellValue}

/-- The tests that some conditions make are passed by what they hold of. -/
theorem passes_of_mapM {conditions : List (String × FilterValue)}
    (made : conditions.mapM (fun c => return (c.1, ← testOf c.1 c.2)) = .ok tests) :
    passes tests field = true ↔ ∀ c ∈ conditions, ∃ value ∈ field c.1, c.2.HoldsOf value := by
  induction conditions generalizing tests with
  | nil =>
      cases made
      exact iff_of_true rfl fun _ inside => nomatch inside
  | cons c conditions ih =>
      rw [List.mapM_cons] at made
      cases first : testOf c.1 c.2 with
      | error fault => rw [first] at made; cases made
      | ok test =>
          rw [first] at made
          cases rest : conditions.mapM fun c => return (c.1, ← testOf c.1 c.2) with
          | error fault => rw [rest] at made; cases made
          | ok others =>
              rw [rest] at made
              cases made
              rw [passes, List.all_cons, Bool.and_eq_true, Option.any_eq_true, List.forall_mem_cons, ← ih rest]
              simp only [holds_testOf_iff first, Option.mem_def]
              rfl

theorem passes_iff (compiled : f.compile = .ok tests) : passes tests field = true ↔ f.Selects field := by
  rw [compile] at compiled
  cases checked : f.check with
  | error fault => rw [checked] at compiled; cases compiled
  | ok =>
      rw [checked] at compiled
      exact passes_of_mapM compiled

/-- Acceptable conditions make tests. -/
theorem testOf_of_acceptable {key : String} {value : FilterValue} (fine : Acceptable key value) :
    ∃ test, testOf key value = .ok test := by
  cases value with
  | scalar value => exact ⟨_, rfl⟩
  | nested entries => exact fine.2.elim
  | predicate p =>
      cases p with
      | like pattern options =>
          obtain ⟨-, -, -, -, compiled, built⟩ := fine
          exact ⟨.like compiled, by rw [testOf, Predicate.compile, built]⟩
      | _ => exact ⟨_, rfl⟩

theorem exists_compile (valid : f.check = .ok ()) : ∃ tests, f.compile = .ok tests := by
  have each := check_eq_ok_iff.mp valid
  rw [compile, valid]
  change ∃ tests, f.conditions.mapM (fun c => return (c.1, ← testOf c.1 c.2)) = .ok tests
  generalize f.conditions = conditions at each ⊢
  induction conditions with
  | nil => exact ⟨[], rfl⟩
  | cons c conditions ih =>
      obtain ⟨fine, each⟩ := List.forall_mem_cons.mp each
      obtain ⟨test, first⟩ := testOf_of_acceptable fine
      obtain ⟨tests, rest⟩ := ih each
      exact ⟨(c.1, test) :: tests, by rw [List.mapM_cons, first, rest]; rfl⟩

/-! ## Other filters -/

theorem selects_perm (same : g.conditions.Perm f.conditions) : g.Selects field ↔ f.Selects field :=
  forall_congr' fun _ => by rw [same.mem_iff]

theorem check_perm (same : g.conditions.Perm f.conditions) : g.check = .ok () ↔ f.check = .ok () := by
  rw [check_eq_ok_iff, check_eq_ok_iff]
  exact forall_congr' fun _ => by rw [same.mem_iff]

end Filter

/-- A condition under a new key takes nothing back. -/
theorem Filter.selects_of_insert {f : Filter} {key : String} (new : key ∉ f.keys) {value : FilterValue}
    {field : String → Option CellValue} (selects : (f.insert key value).Selects field) : f.Selects field := by
  intro c inside
  have behind : (f.insert key value).conditions = f.conditions ++ [(key, value)] := setCondition_new new value
  exact selects c (behind ▸ List.mem_append_left _ inside)

end SheetExport
