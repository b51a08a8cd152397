import SheetExport.Error

/-!
# Operations that keep a state and may fail

An `Action` keeps what it did to the state before it failed. Sheets, stores and storages are changed
by actions, because the state that a failed call leaves behind can be seen by the calls after it.
-/

namespace SheetExport

/-- An operation on a state of type `σ` that yields an `α` or fails with a `φ`. -/
abbrev ActionOf (φ σ α : Type) := ExceptT φ (StateM σ) α

/-- An operation that fails with an `ExportError`. -/
abbrev Action (σ α : Type) := ActionOf ExportError σ α

namespace ActionOf

variable {φ ψ σ τ α : Type}

/-- The outcome of an action on `s`, and the state it leaves. -/
def on (a : ActionOf φ σ α) (s : σ) : Except φ α × σ := a s

def of (f : σ → Except φ α × σ) : ActionOf φ σ α := f

def within (part : τ → σ) (put : σ → τ → τ) (a : ActionOf φ σ α) : ActionOf φ τ α := fun t =>
  let (outcome, s) := a (part t)
  (outcome, put s t)

/-- The action on a pair that acts on its first part. -/
def first (a : ActionOf φ σ α) : ActionOf φ (σ × τ) α := a.within Prod.fst fun s p => (s, p.2)

/-- The action on a pair that acts on its second part. -/
def second (a : ActionOf φ σ α) : ActionOf φ (τ × σ) α := a.within Prod.snd fun s p => (p.1, s)

/-- The same action with its failures seen as another kind. -/
def failingAs (f : φ → ψ) (a : ActionOf φ σ α) : ActionOf ψ σ α := fun s =>
  let (outcome, s) := a s
  (outcome.mapError f, s)

def attempt (a : ActionOf φ σ α) : StateM σ (Except φ α) := a

/-- The action that yields the outcome of another; it never fails itself. -/
def caught (a : ActionOf φ σ α) : ActionOf ψ σ (Except φ α) := fun s =>
  let (outcome, s) := a s
  (.ok outcome, s)

end ActionOf

end SheetExport
