import SheetExport.Error

/-!
# Asking for cancellation

A cancellation can be asked for once. Callers may register callbacks that run when it is, and take them
back. Callbacks may do themselves whatever callers do. Everything is split into sections that nothing
can interrupt: `Registry.advance` performs one and says what is to be done after it.
-/

namespace SheetExport.Cancellation

/-- What a caller or a callback can do. -/
inductive Command where
  | cancel
  /-- Registers a callback with the given body and keeps the registration under a key. -/
  | register (key : String) (body : List Command)
  /-- Registers a callback where nobody can ask for cancellation. -/
  | registerNowhere (key : String) (body : List Command)
  /-- Takes back the registration kept under a key. -/
  | dispose (key : String)
  /-- Asks whether cancellation was asked for, as the two sides see it. -/
  | ask
  /-- Fails once cancellation was asked for. -/
  | check
  | checkNowhere
  | dropSource
  | dropToken
  deriving Inhabited, Repr

inductive Answer where
  | done
  /-- Whether there was a registration. -/
  | disposed (found : Bool)
  /-- What the two sides see; the side that can ask sees nothing once it is gone. -/
  | seen (token : Bool) (source : Option Bool)
  | checked (outcome : Except ExportError Unit)

inductive Event where
  /-- The callback of a registration began to run. -/
  | ran (registration : Nat) (key : String)
  /-- A callback got an answer to a command. -/
  | answered (key : String) (command : Command) (answer : Answer)

/-- A callback that waits for cancellation. -/
structure Waiting where
  registration : Nat
  key : String
  body : List Command

/-- What callers and callbacks share. -/
structure Registry where
  requested : Bool
  /-- Registrations are numbered from zero on. -/
  next : Nat
  waiting : List Waiting
  sourceHeld : Bool
  tokenHeld : Bool
  kept : List (String × Nat)
  /-- What happened so far. -/
  events : List Event

inductive Task where
  /-- A command of a caller, or of the callback with the given key. -/
  | command (c : Command) (callback : Option String)
  /-- Takes all waiting callbacks in order to run them. -/
  | drain
  | run (w : Waiting)
  | keep (key : String) (registration : Nat)
  /-- Notes the answer that a callback got. -/
  | note (key : String) (c : Command) (answer : Answer)

namespace Registry

def initial : Registry := ⟨false, 0, [], true, true, [], []⟩

def tokenSees (s : Registry) : Bool := s.tokenHeld && s.requested

/-- Fails once the side that hears of cancellation sees it. -/
def checkToken (s : Registry) : Except ExportError Unit :=
  if s.tokenSees then .error .cancelled else .ok ()

/-- The callbacks go when neither side is left. -/
def forgetUnreachable (s : Registry) : Registry :=
  if s.sourceHeld || s.tokenHeld then s else { s with waiting := [] }

/-- The first section of a command: its answer, the registry after it, and what the command does then. -/
def perform (s : Registry) : Command → Answer × Registry × List Task
  | .cancel =>
      if s.sourceHeld && !s.requested then (.done, { s with requested := true }, [.drain])
      else (.done, s, [])
  | .register key body =>
      let w : Waiting := ⟨s.next, key, body⟩
      let s := { s with next := s.next + 1 }
      if !s.tokenHeld then (.done, s, [.keep key w.registration])
      else if s.requested then (.done, s, [.run w, .keep key w.registration])
      else (.done, { s with waiting := s.waiting ++ [w] }, [.keep key w.registration])
  | .registerNowhere key _ => (.done, { s with next := s.next + 1 }, [.keep key s.next])
  | .dispose key =>
      match s.kept.lookup key with
      | none => (.disposed false, s, [])
      | some registration => (.disposed true,
          { s with
            kept := s.kept.filter fun k => k.1 != key
            waiting := s.waiting.filter fun w => w.registration != registration }, [])
  | .ask => (.seen s.tokenSees (if s.sourceHeld then some s.requested else none), s, [])
  | .check => (.checked s.checkToken, s, [])
  | .checkNowhere => (.checked (.ok ()), s, [])
  | .dropSource => (.done, forgetUnreachable { s with sourceHeld := false }, [])
  | .dropToken => (.done, forgetUnreachable { s with tokenHeld := false }, [])

def record (s : Registry) (e : Event) : Registry := { s with events := s.events ++ [e] }

/-- Performs one section of a task and says what is to be done after it. -/
def advance (s : Registry) : Task → Registry × List Task
  | .command c callback =>
      let (answer, s, tasks) := s.perform c
      (s, tasks ++ (callback.map fun key => Task.note key c answer).toList)
  | .drain => ({ s with waiting := [] }, s.waiting.map Task.run)
  | .run w => (s.record (.ran w.registration w.key), w.body.map fun c => .command c (some w.key))
  | .keep key registration =>
      ({ s with kept := (key, registration) :: s.kept.filter fun k => k.1 != key }, [])
  | .note key c answer => (s.record (.answered key c answer), [])

end Registry

end SheetExport.Cancellation
