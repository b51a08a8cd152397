import SheetExport.Action
import SheetExport.Keyed

/-!
# Stores of hashes

A hash store keeps texts in fields under keys, and forgets a key when its time has run out. Only three
operations are required; the others can be had from them. A `Dialogue` is what a caller does with such a
store: calls one after another, each of which may depend on the answers before it. Other callers may come
in between any two calls.
-/

namespace SheetExport

abbrev Fields := Keyed String

structure HashStore (σ : Type) where
  /-- Writes fields and leaves the others of the key as they are. -/
  putAll : (key : String) → Fields → Action σ Unit
  /-- All fields of a key; none if there is no such key. -/
  entries : (key : String) → Action σ Fields
  /-- Forgets a key after a lifetime in nanoseconds. -/
  expire : (key : String) → (lifetime : Nat) → Action σ Unit
  put : (key field value : String) → Action σ Unit := fun key field value => putAll key [(field, value)]
  find? : (key field : String) → Action σ (Option String) := fun key field =>
    return (← entries key).find? field
  /-- Whether there is a key. -/
  contains : (key : String) → Action σ Bool := fun key => return !(← entries key).isEmpty

def HashStore.within {σ τ : Type} (part : τ → σ) (put : σ → τ → τ) (inner : HashStore σ) :
    HashStore τ where
  putAll key fields := (inner.putAll key fields).within part put
  entries key := (inner.entries key).within part put
  expire key lifetime := (inner.expire key lifetime).within part put
  put key field value := (inner.put key field value).within part put
  find? key field := (inner.find? key field).within part put
  contains key := (inner.contains key).within part put

inductive Dialogue (α : Type) where
  | done (a : α)
  | putAll (key : String) (fields : Fields) (rest : Dialogue α)
  | put (key field value : String) (rest : Dialogue α)
  | entries (key : String) (rest : Fields → Dialogue α)
  | find? (key field : String) (rest : Option String → Dialogue α)
  | contains (key : String) (rest : Bool → Dialogue α)
  | expire (key : String) (lifetime : Nat) (rest : Dialogue α)

namespace Dialogue

variable {σ α : Type}

/-- A dialogue that nobody interrupts. The first call that fails ends it. -/
def hold (store : HashStore σ) : Dialogue α → Action σ α
  | done a => pure a
  | putAll key fields rest => do
      store.putAll key fields
      rest.hold store
  | put key field value rest => do
      store.put key field value
      rest.hold store
  | entries key rest => do (rest (← store.entries key)).hold store
  | find? key field rest => do (rest (← store.find? key field)).hold store
  | contains key rest => do (rest (← store.contains key)).hold store
  | expire key lifetime rest => do
      store.expire key lifetime
      rest.hold store

end Dialogue

end SheetExport
