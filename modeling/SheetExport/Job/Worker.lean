import SheetExport.Export.Run
import SheetExport.Job.Ending
import SheetExport.Job.Watch
import SheetExport.Storage.Basic

/-!
# Working on jobs

A worker exports to a scratch file, saves the file in a storage and keeps the record of the job up to
date. How the export ends is noted in the record first and announced then; the only failures of
`Worker.process` itself are those of the job store.
-/

namespace SheetExport

variable [Gzip] [Zip]

/-- Who works on jobs in a world `ω`, in which the job store and the storage are. -/
structure Worker (ω : Type) where
  store : JobStore ω
  storage : FileStorage ω
  config : Config
  /-- The scratch file that is made for an export, or why none can be made. -/
  scratch : Except IoFault Sink
  clock : ω → Timestamp
  /-- The disk for the rows that leave memory during an export. -/
  spillDisk : ω → Except IoFault Disk := fun _ => .ok .sound

structure Shift (σ ω : Type) where
  source : σ
  world : ω
  watch : JobWatch
  /-- What has been announced so far. -/
  announced : List JobEvent

abbrev WorkStep (σ ω α : Type) := ActionOf Halt (Shift σ ω) α

namespace Worker

variable {σ ω α β : Type}

def onWorld (a : Action ω β) : WorkStep σ ω β :=
  (a.failingAs Halt.error).within Shift.world fun world s => { s with world }

def closeSource (source : Source σ ω α) : WorkStep σ ω Unit := modify fun s =>
  let (_, own, world) := source.close (s.source, s.world)
  { s with source := own, world }

def settle (w : Worker ω) (id : String) (ending : Ending) : WorkStep σ ω Ending := do
  onWorld (w.store.setStatus id ending.status ending.locator ending.errorMessage)
  modify fun s => { s with announced := s.announced ++ [⟨id, ending⟩] }
  return ending

/-- What an export for a job is told: its progress goes to the watch, which says when to stop. -/
def options (w : Worker ω) (id : String) : ExportOptions (JobWatch × ω) where
  stopRequested s := s.1.stopRequested
  listen p s := (JobWatch.hear w.store id p s).2

/-- Exports to the scratch file and yields what is in it. -/
def exportToScratch (w : Worker ω) (id : String) (schema : Schema α) (source : Source σ ω α)
    (filter : Option Filter) : WorkStep σ ω ByteArray := .of fun s =>
  match w.scratch with
  | .error fault => (.error (.error (.io fault)), s)
  | .ok output =>
      let (outcome, run) := exportTo w.config (w.options id) schema
        (source.within Prod.snd fun world t => (t.1, world)) filter (w.clock s.world) s.source
        (s.watch, s.world) output (w.spillDisk s.world)
      (outcome.map fun _ => run.output.content,
        { s with source := run.source, watch := run.world.1, world := run.world.2 })

def fileName (sheetName id : String) : String := mendSheetName sheetName ++ "-" ++ id ++ ".xlsx"

def saveFile (w : Worker ω) (name : String) (bytes : ByteArray) : WorkStep σ ω String :=
  onWorld (.of fun world =>
    let (outcome, world, _) := (w.storage.save name spreadsheetType bytes.size).on (world, ⟨bytes, 0⟩)
    (outcome, world))

def deliver (w : Worker ω) (id : String) (schema : Schema α) (source : Source σ ω α)
    (filter : Option Filter) : WorkStep σ ω String := do
  let bytes ← w.exportToScratch id schema source filter
  w.saveFile (fileName schema.sheetName id) bytes

/-- Begins the work on a job and says whether there is still something to do. -/
def begin (w : Worker ω) (id : String) : WorkStep σ ω Bool := do
  if ← onWorld (w.store.cancelRequested id) then return false
  onWorld (w.store.setStatus id .processing none none)
  return true

def conclude (w : Worker ω) (id : String) : Except Halt String → WorkStep σ ω Ending
  | .ok locator => w.settle id (.completed locator)
  | .error (.error .cancelled) => w.settle id .cancelled
  | .error (.error e) => do
      modify fun s =>
        let (watch, world) := (JobWatch.hear w.store id ⟨.failed, s.watch.rows, s.watch.batches⟩
          (s.watch, s.world)).2
        { s with watch, world }
      w.settle id (.failed e.message)
  | .error (.breakdown b) => throw (.breakdown b)

/-- Works on a job until it has ended. A source that was not opened is closed here; one that was opened is
    closed by the export. -/
def process (w : Worker ω) (id : String) (schema : Schema α) (source : Source σ ω α)
    (filter : Option Filter) : WorkStep σ ω Ending := do
  modify fun s => { s with watch := .initial }
  match ← (w.begin id).caught with
  | .error halt => do
      closeSource source
      throw halt
  | .ok false => do
      closeSource source
      w.settle id .cancelled
  | .ok true => w.conclude id (← (w.deliver id schema source filter).caught)

def noteFailure (w : Worker ω) (id message : String) : WorkStep σ ω Unit := do
  let _ ← w.settle id (.failed message)

end Worker

end SheetExport
