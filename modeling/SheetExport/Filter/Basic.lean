import SheetExport.Filter.Predicate

/-!
# Filters

A filter is a list of conditions on the fields of an entity, all of which have to hold. Fields are named
by keys, and a key occurs once: a second condition on it takes the place of the first. A filter has to
be compiled before entities can be tested, and one that breaks a rule cannot be compiled.
-/

namespace SheetExport

inductive FilterValue where
  | scalar (value : CellValue)
  | predicate (p : Predicate)
  /-- A map of further conditions, which every filter refuses. -/
  | nested (entries : List (String × FilterValue))
  deriving Inhabited

/-- The conditions with the condition on a key set, at its old place if there is one and at the end
    otherwise. -/
def setCondition {α : Type} (key : String) (value : α) : List (String × α) → List (String × α)
  | [] => [(key, value)]
  | (k, v) :: rest =>
      if k = key then (k, value) :: rest else (k, v) :: setCondition key value rest

/-- A key that was there stays where it is; another one becomes the last. -/
theorem keys_setCondition {α : Type} (key : String) (value : α) (cs : List (String × α)) :
    (setCondition key value cs).map Prod.fst =
      if key ∈ cs.map Prod.fst then cs.map Prod.fst else cs.map Prod.fst ++ [key] := by
  induction cs with
  | nil => simp [setCondition]
  | cons c rest ih =>
      obtain ⟨k, v⟩ := c
      by_cases h : k = key
      · simp [setCondition, h]
      · have h' : ¬ key = k := fun e => h e.symm
        simp only [setCondition, h, if_false, List.map_cons, ih, List.mem_cons, h', false_or]
        split <;> rfl

/-- Conditions on fields, in the order in which their keys were first set. -/
structure Filter where
  conditions : List (String × FilterValue)
  keys_nodup : (conditions.map Prod.fst).Nodup

namespace Filter

def empty : Filter := ⟨[], List.nodup_nil⟩

def insert (f : Filter) (key : String) (value : FilterValue) : Filter :=
  { conditions := setCondition key value f.conditions
    keys_nodup := by
      rw [keys_setCondition]
      split
      · exact f.keys_nodup
      · rename_i h
        refine List.nodup_append.2 ⟨f.keys_nodup, by simp, ?_⟩
        intro a ha b hb
        simp only [List.mem_singleton] at hb
        subst hb
        exact fun e => h (e ▸ ha) }

def keys (f : Filter) : List String := f.conditions.map Prod.fst

def size (f : Filter) : Nat := f.conditions.length

/-- The filter with these conditions set one after another. -/
def ofList (conditions : List (String × FilterValue)) : Filter :=
  conditions.foldl (fun f c => f.insert c.1 c.2) empty

def isKeyChar (c : Char) : Bool := c.isAlphanum || c == '.' || c == '_'

def isKey (key : String) : Bool := !key.isEmpty && key.toList.all isKeyChar

variable [RegexEngine]

def checkCondition (key : String) (value : FilterValue) : Except FilterFault Unit :=
  if isKey key then
    match value with
    | .scalar _ => .ok ()
    | .predicate p => p.check
    | .nested _ => .error (.notScalar key)
  else .error (.badKey key)

/-- Refuses a filter; the reason is that of the first condition that is refused. -/
def check (f : Filter) : Except FilterFault Unit :=
  f.conditions.forM fun c => checkCondition c.1 c.2

def testOf (key : String) : FilterValue → Except FilterFault Test
  | .scalar value => .ok (.equals value)
  | .predicate p => p.compile
  | .nested _ => .error (.notScalar key)

/-- The tests that the conditions make, unless the filter is refused. -/
def compile (f : Filter) : Except FilterFault (List (String × Test)) := do
  f.check
  f.conditions.mapM fun c => return (c.1, ← testOf c.1 c.2)

/-- An entity passes all tests, given its fields. A field that is missing passes none. -/
def passes (tests : List (String × Test)) (field : String → Option CellValue) : Bool :=
  tests.all fun t => (field t.1).any t.2.holds

/-- A value in words; an absent one is `null`. -/
def valueText : CellValue → String
  | .empty => "null"
  | value => value.toText

def describe (f : Filter) : String :=
  ", ".intercalate (f.conditions.map fun (key, value) => key ++ "=" ++ match value with
    | .scalar value => valueText value
    | .predicate _ => "<predicate>"
    | .nested _ => "<map>")

end Filter

end SheetExport
