import SheetExport.Cell.Formula
import SheetExport.Config.Basic
import SheetExport.Export.FormatMemo
import SheetExport.Export.Metrics
import SheetExport.Export.Progress
import SheetExport.Schema
import SheetExport.Sheet.Name
import SheetExport.Source.Basic

/-!
# Running an export

An export asks a source for one entity after another, turns each into a row of the only sheet of a
workbook and, at the end, writes the workbook to an output. After every batch of rows it pages all rows
out and looks whether it should stop. However it ends, the source is closed and the rows are let go of;
`exportRows` is what happens in between.
-/

namespace SheetExport

variable [Gzip]

inductive Halt where
  | error (e : ExportError)
  /-- Taking the values of an entity broke off. -/
  | breakdown (b : Breakdown)
  deriving DecidableEq, Repr

/-- What an export is told besides its schema and configuration, in a world `ω`. -/
structure ExportOptions (ω : Type) where
  stopRequested : ω → Bool
  listen : Progress → ω → ω

/-- An export under way: its source, the world around it and what it has done so far. -/
structure Run (σ ω : Type) where
  source : σ
  world : ω
  workbook : Workbook
  formats : FormatMemo
  output : Sink
  rows : Nat
  batches : Nat
  /-- The progress told so far. -/
  events : List Progress

/-- Data rows end before this index, which keeps a sheet below the greatest number of rows. -/
def rowIndexLimit : Nat := maxRows - 1

abbrev RunStep (σ ω α : Type) := ActionOf Halt (Run σ ω) α

namespace Run

variable {σ ω α β : Type}

def onWorkbook (a : Action Workbook β) : RunStep σ ω β :=
  (a.failingAs Halt.error).within Run.workbook fun workbook r => { r with workbook }

/-- A step on the workbook that asks for the formats of values. -/
def onFormatted (a : Action (Workbook × FormatMemo) β) : RunStep σ ω β :=
  (a.failingAs Halt.error).within (fun r => (r.workbook, r.formats))
    fun s r => { r with workbook := s.1, formats := s.2 }

def onSource (a : Action (σ × ω) β) : RunStep σ ω β :=
  (a.failingAs Halt.error).within (fun r => (r.source, r.world))
    fun s r => { r with source := s.1, world := s.2 }

/-- A step on the source that cannot fail. -/
def readSource (a : StateM (σ × ω) β) : RunStep σ ω β :=
  onSource (.of fun s =>
    let (b, s) := a s
    (.ok b, s))

def tell (options : ExportOptions ω) (phase : Phase) : RunStep σ ω Unit :=
  modify fun r =>
    let progress : Progress := ⟨phase, r.rows, r.batches⟩
    { r with world := options.listen progress r.world, events := r.events ++ [progress] }

def headerStyle : Style := ⟨none, true, true⟩

def safeText (config : Config) (s : String) : String :=
  if config.escapeFormulas then disarmFormula s else s

def safeValue (config : Config) : CellValue → CellValue
  | .text s => .text (safeText config s)
  | value => value

/-- The number format of a value: that of its column, or else that of its kind. -/
def patternOf (columnPattern : Option String) (value : CellValue) : Option String :=
  match columnPattern with
  | some pattern => some pattern
  | none => value.defaultPattern

def writeHeader (config : Config) (schema : Schema α) : Action Workbook Unit := do
  let format ← if config.styleHeader then Workbook.register headerStyle else pure 0
  Workbook.createSheet (mendSheetName schema.sheetName)
  let cells := schema.headers.map fun h => Cell.mk (.text (safeText config h)) format
  Workbook.onSheet do
    modify fun w => { w with widths := schema.resolvedWidths }
    Window.append 0 cells

/-- The cells for values, given the number formats of their columns. -/
def dataCells (config : Config) :
    List (Option String) → List CellValue → Action (Workbook × FormatMemo) (List Cell)
  | _, [] => pure []
  | patterns, value :: rest => do
      let pattern := patternOf (patterns.head?.join) value
      let format ← FormatMemo.numberFor config.borderData pattern
      let cells ← dataCells config patterns.tail rest
      return ⟨safeValue config value, format⟩ :: cells

/-- The failure for a row that does not fit its headers. -/
def misaligned (schema : Schema α) (values headers row : Nat) : ExportError :=
  .schema (some schema.entityName) ("to_row returned " ++ toString values ++ " values for " ++
    toString headers ++ " headers at row " ++ toString row)

def writeEntity (config : Config) (schema : Schema α) (a : α) : RunStep σ ω Unit := do
  let index := (← get).rows + 1
  match schema.row a with
  | .error b => throw (.breakdown b)
  | .ok values =>
      if values.length ≠ schema.headers.length then
        throw (.error (misaligned schema values.length schema.headers.length index))
      onFormatted do
        let cells ← dataCells config schema.patterns values
        (Workbook.onSheet (Window.append index cells)).first
      modify fun r => { r with rows := r.rows + 1 }

/-- Ends a batch, and the export if somebody asked for it. -/
def endBatch (options : ExportOptions ω) : RunStep σ ω Unit := do
  onWorkbook (Workbook.onSheet (Window.pageOut 0))
  modify fun r => { r with batches := r.batches + 1 }
  tell options .flushedBatch
  if options.stopRequested (← get).world then
    tell options .cancelled
    throw (.error .cancelled)

/-- The failure for a fault in a stream. Faults that say where they come from stay as they are. -/
def streamFault (rows : Nat) : ExportError → ExportError
  | e@(.dataSource ..) | e@(.streamProcessing ..) | e@(.validation ..) | e@.cancelled => e
  | e => .streamProcessing rows e.message

def writeEntities (config : Config) (options : ExportOptions ω) (schema : Schema α)
    (source : Source σ ω α) : Nat → RunStep σ ω Unit
  | 0 => pure ()
  | n + 1 => do
      match ← readSource source.next with
      | .finished => pure ()
      | .fault e => throw (.error (streamFault (← get).rows e))
      | .entity a => do
          writeEntity config schema a
          if (← get).rows % config.flushBatch = 0 then endBatch options
          writeEntities config options schema source n

/-- The greatest number of data rows of an export. -/
def rowLimit (config : Config) : Nat := min (config.maxRows.getD (rowIndexLimit - 1)) (rowIndexLimit - 1)

section Zip

variable [Zip]

def writeOutput (now : Timestamp) : RunStep σ ω Unit :=
  ((Workbook.write now).failingAs Halt.error).within (fun r => (r.workbook, r.output))
    fun s r => { r with workbook := s.1, output := s.2 }

/-- All steps of an export, from its first word to its last. -/
def exportRows (config : Config) (options : ExportOptions ω) (schema : Schema α)
    (source : Source σ ω α) (filter : Option Filter) (now : Timestamp) : RunStep σ ω Unit := do
  tell options .starting
  onWorkbook (writeHeader config schema)
  onSource (match filter with
    | some filter => source.streamMatching filter
    | none => source.stream)
  writeEntities config options schema source (rowLimit config)
  tell options .writingWorkbook
  writeOutput now
  tell options .completed

end Zip

/-- An export that has not begun. -/
def start (config : Config) (source : σ) (world : ω) (output : Sink) (spillDisk : Except IoFault Disk) :
    Run σ ω where
  source
  world
  workbook := .create config.window config.compressSpill spillDisk
  formats := .empty
  output
  rows := 0
  batches := 0
  events := []

def finish (source : Source σ ω α) (r : Run σ ω) : Run σ ω :=
  let (_, s, world) := source.close (r.source, r.world)
  { r with workbook := r.workbook.dispose, source := s, world }

end Run

/-- Exports the entities of a source, or those that pass a filter, to an output. Rows that leave memory go to a
    disk. -/
def exportTo [Zip] {σ ω α : Type} (config : Config) (options : ExportOptions ω) (schema : Schema α)
    (source : Source σ ω α) (filter : Option Filter) (now : Timestamp) (s : σ) (world : ω)
    (output : Sink) (spillDisk : Except IoFault Disk := .ok .sound) : Except Halt Unit × Run σ ω :=
  let (outcome, r) := (Run.exportRows config options schema source filter now).on
    (.start config s world output spillDisk)
  (outcome, r.finish source)

/-- Counts an export that took some milliseconds, if its configuration asks for it. One that broke down
    counts for nothing, and only one that succeeded adds its rows. -/
def Metrics.recordExport (m : Metrics) (config : Config) (milliseconds : UInt64) (rows : Nat) :
    Except Halt Unit → Metrics
  | .error (.breakdown _) => m
  | outcome =>
      if config.recordMetrics then
        let m := m.recordDuration milliseconds outcome.isOk
        if outcome.isOk then m.recordRows (UInt64.ofNat rows) else m
      else m

end SheetExport
