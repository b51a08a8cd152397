import SheetExport.Action
import SheetExport.Calendar.Timestamp
import SheetExport.Job.Status

/-!
# Jobs and where they are kept

A `Job` is the record of an export that somebody asked for. A `JobStore` keeps such records; to change a
job that it does not know does nothing.
-/

namespace SheetExport

structure Job where
  id : String
  status : JobStatus
  locator : Option String
  errorMessage : Option String
  /-- The data rows written so far. -/
  rows : Nat
  /-- The batches flushed so far. -/
  batches : Nat
  cancelRequested : Bool
  createdAt : Timestamp
  completedAt : Option Timestamp
  deriving DecidableEq

namespace Job

/-- A job that nobody has begun to work on. -/
def fresh (id : String) (now : Timestamp) : Job where
  id
  status := .ready
  locator := none
  errorMessage := none
  rows := 0
  batches := 0
  cancelRequested := false
  createdAt := now
  completedAt := none

/-- The job after a change of status, unless the change is refused or is none. A locator or message that is
    not given stays as it is. -/
def moveTo? (j : Job) (status : JobStatus) (locator errorMessage : Option String) (now : Timestamp) :
    Option Job :=
  match j.status.transitionTo status with
  | .apply => some { j with
      status
      locator := locator <|> j.locator
      errorMessage := errorMessage <|> j.errorMessage
      completedAt := if status.isTerminal then some now else j.completedAt }
  | .unchanged | .rejected => none

end Job

structure JobStore (σ : Type) where
  /-- Makes a job that is ready, under an id that no job has had. -/
  create : (id : String) → Action σ Unit
  find? : (id : String) → Action σ (Option Job)
  /-- Changes the status of a job if that is a way forward. -/
  setStatus : (id : String) → JobStatus → (locator errorMessage : Option String) → Action σ Unit
  setProgress : (id : String) → (rows batches : Nat) → Action σ Unit
  requestCancel : (id : String) → Action σ Unit
  /-- Whether somebody wants a job to stop. -/
  cancelRequested : (id : String) → Action σ Bool

def JobStore.within {σ τ : Type} (part : τ → σ) (put : σ → τ → τ) (inner : JobStore σ) : JobStore τ where
  create id := (inner.create id).within part put
  find? id := (inner.find? id).within part put
  setStatus id status locator errorMessage :=
    (inner.setStatus id status locator errorMessage).within part put
  setProgress id rows batches := (inner.setProgress id rows batches).within part put
  requestCancel id := (inner.requestCancel id).within part put
  cancelRequested id := (inner.cancelRequested id).within part put

/-- How long a job is kept after it was last written to, in nanoseconds, unless something else is asked for. -/
def defaultRetention : Nat := 24 * 60 * 60 * 10 ^ 9

end SheetExport
