import SheetExport.Error

/-!
# Resources that a source has open

Every resource gets a handle, by which it can be released; `OpenResources` also remembers which ones are
still open, so that it can release them all. A resource is released once: its hook runs then and never
again.
-/

namespace SheetExport

structure Resource where
  name : String
  /-- What runs when it is released, given by its outcome. -/
  hook : Option (Except ExportError Unit)
  released : Bool

/-- The resources that were ever tracked, each under its handle, and those to be released in the end. -/
structure OpenResources where
  /-- The handle of a resource is its place here. -/
  all : List Resource
  /-- The handles not given up yet, in the order in which they were tracked. -/
  tracked : List Nat
  /-- The handles whose hooks have run, in the order of the runs. -/
  hooksRun : List Nat

namespace OpenResources

def empty : OpenResources := ⟨[], [], []⟩

/-- The resource under a handle is open. -/
def isOpen (s : OpenResources) (handle : Nat) : Bool := s.all[handle]?.any fun r => !r.released

/-- Tracks a resource and yields its handle. Handles that were released by then are given up. -/
def track (s : OpenResources) (name : String) (hook : Option (Except ExportError Unit)) :
    Nat × OpenResources :=
  let handle := s.all.length
  (handle, { s with
    all := s.all ++ [⟨name, hook, false⟩]
    tracked := s.tracked.filter s.isOpen ++ [handle] })

def openCount (s : OpenResources) : Nat := (s.tracked.filter s.isOpen).length

/-- Releases the resource under a handle and yields the outcome of its hook. Without a hook, or for a
    resource that was released before, there is nothing that could fail. -/
def release (s : OpenResources) (handle : Nat) : Except ExportError Unit × OpenResources :=
  match s.all[handle]? with
  | some r =>
      if r.released then (.ok (), s)
      else
        let s := { s with all := s.all.set handle { r with released := true } }
        match r.hook with
        | some outcome => (outcome, { s with hooksRun := s.hooksRun ++ [handle] })
        | none => (.ok (), s)
  | none => (.ok (), s)

/-- Releases every resource that is still open and yields their number. A hook that fails stops nothing. -/
def releaseAll (s : OpenResources) : Nat × OpenResources :=
  let handles := s.tracked.filter s.isOpen
  (handles.length, { handles.foldl (fun s h => (s.release h).2) s with tracked := [] })

end OpenResources

end SheetExport
