import SheetExport.Job.Basic
import SheetExport.Job.HashStore
import SheetExport.Text.Blank
import SheetExport.Text.Numeral

/-!
# Jobs as hashes

Each job is a hash of texts in a hash store. Every write puts off the time at which the hash is
forgotten. A change of status reads the status before it writes; what keeps a finished job from being
brought back is the order of statuses, and not that nobody comes in between.
-/

namespace SheetExport

inductive JobField where
  | id
  | status
  | locator
  | errorMessage
  | rows
  | batches
  | cancelRequested
  | createdAt
  | completedAt
  deriving DecidableEq, Repr

def JobField.name : JobField → String
  | id => "jobId"
  | status => "status"
  | locator => "resultUri"
  | errorMessage => "errorMessage"
  | rows => "rowsWritten"
  | batches => "batchesFlushed"
  | cancelRequested => "cancelRequested"
  | createdAt => "createdAt"
  | completedAt => "completedAt"

namespace Job

def boolText (b : Bool) : String := if b then "true" else "false"

def freshFields (id : String) (now : Timestamp) : Fields :=
  [(JobField.id.name, id), (JobField.status.name, JobStatus.ready.name), (JobField.rows.name, toString 0),
    (JobField.batches.name, toString 0), (JobField.cancelRequested.name, boolText false),
    (JobField.createdAt.name, now.write)]

def statusFields (status : JobStatus) (locator errorMessage : Option String) (now : Timestamp) : Fields :=
  (JobField.status.name, status.name) ::
    (locator.map fun text => (JobField.locator.name, text)).toList ++
    (errorMessage.map fun text => (JobField.errorMessage.name, text)).toList ++
    [(JobField.completedAt.name, if status.isTerminal then now.write else "")]

def progressFields (rows batches : Nat) : Fields :=
  [(JobField.rows.name, toString rows), (JobField.batches.name, toString batches)]

/-- The job that fields describe. There is none without a status; whatever else is missing or cannot be read
    is as in a new job, made now. -/
def ofFields? (id : String) (fields : Fields) (now : Timestamp) : Option Job := do
  let value (field : JobField) : Option String := fields.find? field.name
  let notBlank (field : JobField) : Option String := (value field).filter fun s => !Text.isBlankText s
  let count (field : JobField) : Nat := ((value field).bind Text.readWord?).getD 0
  let time (field : JobField) : Option Timestamp := (value field).bind Timestamp.read?
  return {
    id
    status := ← (value .status).bind JobStatus.ofName?
    locator := notBlank .locator
    errorMessage := notBlank .errorMessage
    rows := count .rows
    batches := count .batches
    cancelRequested := value .cancelRequested == some (boolText true)
    createdAt := (time .createdAt).getD now
    completedAt := time .completedAt }

end Job

structure HashedJobs where
  keyStem : String := "sheetstream:job:"
  /-- Nanoseconds after its last write until a job is forgotten. -/
  retention : Nat := defaultRetention

namespace HashedJobs

variable {σ : Type}

def key (h : HashedJobs) (id : String) : String := h.keyStem ++ id

def touch (h : HashedJobs) (id : String) : Dialogue Unit := .expire (h.key id) h.retention (.done ())

def create (h : HashedJobs) (id : String) (now : Timestamp) : Dialogue Unit :=
  .putAll (h.key id) (Job.freshFields id now) (h.touch id)

def find? (h : HashedJobs) (id : String) (now : Timestamp) : Dialogue (Option Job) :=
  .entries (h.key id) fun fields => .done (Job.ofFields? id fields now)

/-- Changes the status of a job if that is a way forward from the status that is read. -/
def setStatus (h : HashedJobs) (id : String) (status : JobStatus) (locator errorMessage : Option String)
    (now : Timestamp) : Dialogue Unit :=
  .find? (h.key id) JobField.status.name fun text =>
    match text.bind JobStatus.ofName? with
    | none => .done ()
    | some current =>
        match current.transitionTo status with
        | .apply => .putAll (h.key id) (Job.statusFields status locator errorMessage now) (h.touch id)
        | .unchanged | .rejected => .done ()

def setProgress (h : HashedJobs) (id : String) (rows batches : Nat) : Dialogue Unit :=
  .contains (h.key id) fun known =>
    if known then .putAll (h.key id) (Job.progressFields rows batches) (h.touch id) else .done ()

def requestCancel (h : HashedJobs) (id : String) : Dialogue Unit :=
  .contains (h.key id) fun known =>
    if known then .put (h.key id) JobField.cancelRequested.name (Job.boolText true) (h.touch id)
    else .done ()

/-- Whether somebody wants a job to stop. -/
def cancelRequested (h : HashedJobs) (id : String) : Dialogue Bool :=
  .find? (h.key id) JobField.cancelRequested.name fun text => .done (text == some (Job.boolText true))

/-- The store that keeps jobs as hashes, with a clock that tells the time. -/
def store (h : HashedJobs) (hashes : HashStore σ) (clock : σ → Timestamp) : JobStore σ where
  create id := timed fun now => h.create id now
  find? id := timed fun now => h.find? id now
  setStatus id status locator errorMessage := timed fun now => h.setStatus id status locator errorMessage now
  setProgress id rows batches := (h.setProgress id rows batches).hold hashes
  requestCancel id := (h.requestCancel id).hold hashes
  cancelRequested id := (h.cancelRequested id).hold hashes
where
  timed {α : Type} (d : Timestamp → Dialogue α) : Action σ α := do (d (clock (← get))).hold hashes

end HashedJobs

end SheetExport
