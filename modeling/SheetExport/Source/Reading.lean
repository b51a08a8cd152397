import SheetExport.Source.Basic
import SheetExport.Source.Feed
import SheetExport.Source.Resources

/-!
# Sources over feeds

`Feed.source` turns a way of opening feeds into a source that tracks its streams as resources: a stream
that has been read to its end is released at once and never asks the feed again, and closing the source
releases the others. `Feed.plainSource` tracks nothing.
-/

namespace SheetExport

structure FeedStream (ω α : Type) where
  feed : Feed ω α
  position : Nat
  handle : Nat
  /-- Entities that fail are passed over. -/
  wanted : α → Bool

structure FeedState (ω α : Type) where
  calls : Nat
  opened : Nat
  resources : OpenResources
  current : Option (FeedStream ω α)

namespace FeedState

variable {ω α : Type}

def initial : FeedState ω α := ⟨0, 0, .empty, none⟩

def openStreams (s : FeedState ω α) : Nat := s.resources.openCount

end FeedState

namespace Feed

variable {ω α : Type}

/-- Opens a stream over the feed of the next call. One that cannot be had changes only the number of
    calls. -/
def openStream (name : String) (feeds : Nat → Except ExportError (Feed ω α)) (wanted : α → Bool) :
    Action (FeedState ω α × ω) Unit := .of fun (s, world) =>
  let s := { s with calls := s.calls + 1 }
  match feeds (s.calls - 1) with
  | .error e => (.error e, s, world)
  | .ok feed =>
      let opened := s.opened + 1
      let (handle, resources) := s.resources.track (name ++ "#stream-" ++ toString opened) none
      (.ok (), { s with opened, resources, current := some ⟨feed, 0, handle, wanted⟩ }, world)

/-- Reads a stream on from its position. An entity that is not wanted is passed over as long as there is
    patience. -/
def advance (wanted : α → Bool) (feed : Feed ω α) : Nat → Nat → ω → Pull α × Nat × ω
  | 0, position, world => (.finished, position, world)
  | n + 1, position, world =>
      let world := feed.effect position world
      match feed.item position with
      | none => (.finished, position, world)
      | some (.error e) => (.fault e, position + 1, world)
      | some (.ok a) =>
          if wanted a then (.entity a, position + 1, world)
          else advance wanted feed n (position + 1) world

/-- Asks the open stream for its next entity. -/
def nextOf : StateM (FeedState ω α × ω) (Pull α) := fun (s, world) =>
  match s.current with
  | none => (.finished, s, world)
  | some t =>
      if s.resources.isOpen t.handle then
        let (pull, position, world) := advance t.wanted t.feed (t.feed.patience + 1) t.position world
        match pull with
        | .finished => (.finished,
            { s with current := none, resources := (s.resources.release t.handle).2 }, world)
        | pull => (pull, { s with current := some { t with position } }, world)
      else (.finished, { s with current := none }, world)

def closeAll : StateM (FeedState ω α × ω) Unit := fun (s, world) =>
  ((), { s with current := none, resources := s.resources.releaseAll.2 }, world)

/-- The source whose `k`-th stream, counted from zero, is over the feed `feeds k`. With access to the
    fields of entities it streams those that pass a filter; without, it streams all of them, but a filter
    that cannot be compiled is refused in either case. -/
def source [RegexEngine] (name : String) (feeds : Nat → Except ExportError (Feed ω α))
    (fields : Option (α → String → Option CellValue)) : Source (FeedState ω α) ω α where
  name
  stream := openStream name feeds fun _ => true
  streamMatching filter := do
    match filter.compile, fields with
    | .error fault, _ => throw fault.toError
    | .ok _, none => openStream name feeds fun _ => true
    | .ok tests, some fields => openStream name feeds fun a => Filter.passes tests (fields a)
  next := nextOf
  close := closeAll

/-- A position in a feed that is being read, if one is. -/
abbrev Reading (ω α : Type) := Option (Feed ω α × Nat)

def nextPlain : StateM (Reading ω α × ω) (Pull α) := fun (s, world) =>
  match s with
  | none => (.finished, none, world)
  | some (feed, position) =>
      let (pull, next, world) := advance (fun _ => true) feed 1 position world
      (pull, some (feed, next), world)

/-- A source that does no more than it must: it cannot filter and has nothing to release. -/
def plainSource [RegexEngine] (name : String) (feed : Except ExportError (Feed ω α)) :
    Source (Reading ω α) ω α where
  name
  stream := startPlain
  streamMatching := unfiltered startPlain
  next := nextPlain
  close := pure ()
where
  startPlain : Action (Reading ω α × ω) Unit := do
    match feed with
    | .error e => throw e
    | .ok feed => modify fun s => (some (feed, 0), s.2)

end Feed

end SheetExport
