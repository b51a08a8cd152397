import SheetExport.Action
import SheetExport.Filter.Basic

/-!
# Sources of entities

A source hands out entities one at a time. It has a state of its own and acts on the world around it,
for reading an entity may have any effect. At most one stream of a source is read at a time: opening a
stream lets go of the one before.
-/

namespace SheetExport

/-- What a stream answers when it is asked for the next entity. -/
inductive Pull (α : Type) where
  | entity (a : α)
  | fault (e : ExportError)
  | finished
  deriving DecidableEq, Repr

/-- A source of entities `α` with a state `σ` in a world `ω`. -/
structure Source (σ ω α : Type) where
  name : String
  stream : Action (σ × ω) Unit
  /-- Opens a stream of the entities that pass a filter, as far as the source can tell. -/
  streamMatching : Filter → Action (σ × ω) Unit
  /-- Asks the open stream for the next entity. -/
  next : StateM (σ × ω) (Pull α)
  close : StateM (σ × ω) Unit

/-- The source in a whole world that acts on one part of it. -/
def Source.within {σ ω τ α : Type} (part : τ → ω) (put : ω → τ → τ) (inner : Source σ ω α) :
    Source σ τ α where
  name := inner.name
  stream := inner.stream.within (fun (s, t) => (s, part t)) fun (s, w) (_, t) => (s, put w t)
  streamMatching filter :=
    (inner.streamMatching filter).within (fun (s, t) => (s, part t)) fun (s, w) (_, t) => (s, put w t)
  next := fun (s, t) =>
    let (pull, s, w) := inner.next (s, part t)
    (pull, s, put w t)
  close := fun (s, t) =>
    let ((), s, w) := inner.close (s, part t)
    ((), s, put w t)

/-- What a source that knows nothing of filters does with one: it refuses a filter that breaks a rule and
    streams all entities otherwise. -/
def unfiltered [RegexEngine] {σ ω : Type} (stream : Action (σ × ω) Unit) (filter : Filter) :
    Action (σ × ω) Unit := do
  (liftExcept filter.check).failingAs FilterFault.toError
  stream
where
  liftExcept (r : Except FilterFault Unit) : ActionOf FilterFault (σ × ω) Unit := .of fun s => (r, s)

end SheetExport
