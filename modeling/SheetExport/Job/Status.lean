import SheetExport.Error

/-!
# The life of a job

A job moves forward only: it is ready, then it may be in progress, then it has come to one of three ends.
Whoever is late with a change can therefore never bring back a job that has ended.
-/

namespace SheetExport

inductive JobStatus where
  | ready
  | processing
  | completed
  | cancelled
  | failed
  deriving DecidableEq, Repr

inductive Transition where
  | apply
  /-- The status is the one wished for. -/
  | unchanged
  /-- The wish is to go back, or from one end to another. -/
  | rejected
  deriving DecidableEq, Repr

namespace JobStatus

def isTerminal : JobStatus → Bool
  | completed | cancelled | failed => true
  | ready | processing => false

/-- Statuses come one after another by their ranks. -/
def rank : JobStatus → Nat
  | ready => 0
  | processing => 1
  | completed | cancelled | failed => 2

def name : JobStatus → String
  | ready => "READY"
  | processing => "PROCESSING"
  | completed => "COMPLETED"
  | cancelled => "CANCELLED"
  | failed => "FAILED"

/-- The status with a name, which is matched exactly. -/
def ofName? (s : String) : Option JobStatus :=
  [ready, processing, completed, cancelled, failed].find? fun status => status.name == s

/-- The status with a name, or the failure for a name that no status has. -/
def read (s : String) : Except ExportError JobStatus :=
  match ofName? s with
  | some status => .ok status
  | none => .error (.invalidValue "status" "Unknown job status" s)

/-- What becomes of the wish to change one status to another. -/
def transitionTo (current wanted : JobStatus) : Transition :=
  if current = wanted then .unchanged
  else if current.rank < wanted.rank then .apply
  else .rejected

end JobStatus

end SheetExport
