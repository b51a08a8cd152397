import Mathlib.Logic.Function.Basic
import SheetExport.Job.Hashed
import SheetExport.Proofs.Action
import SheetExport.Proofs.Job.HashTable

/-! # Callers that come between each other's calls

A dialogue that is not held is made call by call, and anybody may come in between. A `Race` is a table of
hashes with all that its callers have still to do; a turn makes the next call of one of them. Who has which
turn, and at what moment, is any sequence.
-/

namespace SheetExport

namespace Dialogue

variable {σ α : Type}

def step (store : HashStore σ) : Dialogue α → Action σ (Dialogue α)
  | done a => pure (.done a)
  | putAll key fields rest => do
      store.putAll key fields
      return rest
  | put key field value rest => do
      store.put key field value
      return rest
  | entries key rest => return rest (← store.entries key)
  | find? key field rest => return rest (← store.find? key field)
  | contains key rest => return rest (← store.contains key)
  | expire key lifetime rest => do
      store.expire key lifetime
      return rest

/-- To hold a dialogue is to make its calls one after another. -/
theorem hold_eq_step (store : HashStore σ) (d : Dialogue α) :
    d.hold store = d.step store >>= hold store := by
  cases d <;> simp only [hold, step, bind_assoc, pure_bind]

def isLook : Dialogue α → Bool
  | find? .. => true
  | _ => false

def isWrite : Dialogue α → Bool
  | putAll .. => true
  | _ => false

end Dialogue

/-- A table of hashes and what its callers have still to do. -/
structure Race (ι : Type) where
  table : HashTable
  callers : ι → Dialogue Unit

namespace Race

variable {ι : Type} [DecidableEq ι]

/-- The next call of one caller. A caller whose call failed would give up. -/
def turn (r : Race ι) (who : ι) (now : Moment) : Race ι :=
  let (outcome, table, _) := ((r.callers who).step HashTable.store).on (r.table, now)
  { table, callers := Function.update r.callers who (match outcome with
      | .ok rest => rest
      | .error _ => .done ()) }

theorem turn_eq {r : Race ι} {who : ι} {now later : Moment} {rest : Dialogue Unit} {table : HashTable}
    (h : ((r.callers who).step HashTable.store).on (r.table, now) = (.ok rest, table, later)) :
    r.turn who now = ⟨table, Function.update r.callers who rest⟩ := by
  simp only [turn, h]

/-- Whoever has only to put off the time of a hash is done then, even if the clock cannot tell until when. -/
theorem turn_expire {r : Race ι} {who : ι} {key : String} {lifetime : Nat}
    (last : r.callers who = .expire key lifetime (.done ())) (now : Moment) :
    r.turn who now =
      ⟨((r.table.prune now).postpone now key lifetime).2, Function.update r.callers who (.done ())⟩ := by
  have expired := HashTable.on_expire r.table now key lifetime
  rw [turn, last, Dialogue.step, ActionOf.on_bind, expired]
  cases ((r.table.prune now).postpone now key lifetime).1 with
  | error e => rfl
  | ok => rfl

def after (r : Race ι) (turns : Nat → ι × Moment) : Nat → Race ι
  | 0 => r
  | n + 1 => (r.after turns n).turn (turns n).1 (turns n).2

end Race

end SheetExport
