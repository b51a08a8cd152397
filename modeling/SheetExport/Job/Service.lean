import SheetExport.Job.Worker

/-!
# Exports in the background

A service makes a job for an export at once and has the work done in the background. The filter is checked
before, so that a malformed one never makes a job; and work that breaks down is noted as a failure, so that
its job does not stay in progress for ever.
-/

namespace SheetExport

variable [Gzip] [Zip]

/-- The failure to find anything that background work could be handed to, for a reason. -/
def noBackground (reason : String) : ExportError :=
  .misconfigured "runtime" ("no tokio runtime available: " ++ reason)

def Breakdown.report (b : Breakdown) : String :=
  "Export task panicked: " ++ match b with
    | .message text => text
    | .unexplained => "unknown panic"

namespace Worker

variable {σ ω α : Type}

def accept [RegexEngine] (w : Worker ω) (id : String) (filter : Option Filter) : Action ω Unit := do
  if let some f := filter then
    if let .error fault := f.check then throw fault.toError
  w.store.create id

/-- Does the work of an accepted export. Failures of the job store have nowhere to go. -/
def work (w : Worker ω) (id : String) (schema : Schema α) (source : Source σ ω α)
    (filter : Option Filter) : StateM (Shift σ ω) Unit := do
  if let .error (.breakdown b) ← (w.process id schema source filter).attempt then
    let _ ← (w.noteFailure id b.report).attempt

/-- Accepts an export and does its work at once. -/
def start [RegexEngine] (w : Worker ω) (id : String) (schema : Schema α) (source : Source σ ω α)
    (filter : Option Filter) : WorkStep σ ω Unit := do
  onWorld (w.accept id filter)
  modify fun s => (w.work id schema source filter s).2

end Worker

end SheetExport
