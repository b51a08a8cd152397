import SheetExport.Sheet.Window
import SheetExport.Workbook.Parts
import SheetExport.Workbook.Styles
import SheetExport.Workbook.Zip

/-!
# Workbooks

A `Workbook` has at most one sheet and the styles of its cells. `Workbook.write` packs it into an
archive; it can be written more than once, and after a failed attempt again.
-/

namespace SheetExport

variable [Gzip]

/-- A workbook with at most one sheet. -/
structure Workbook where
  sheet : Option Window
  styles : StyleSheet
  capacity : Nat
  compressed : Bool
  /-- The disk for the rows that leave memory, or why no file can be made on it. -/
  spillDisk : Except IoFault Disk

namespace Workbook

def create (capacity : Nat) (compressed : Bool) (spillDisk : Except IoFault Disk := .ok .sound) : Workbook :=
  ⟨none, .initial, capacity, compressed, spillDisk⟩

def createSheet (name : String) : Action Workbook Unit := do
  let w ← get
  if w.sheet.isSome then throw (.write "workbook already has a worksheet")
  match w.spillDisk with
  | .error fault => throw (.io fault)
  | .ok disk => set { w with sheet := some (Window.create name w.capacity w.compressed disk) }

def onSheet {α : Type} (a : Action Window α) : Action Workbook α := .of fun w =>
  match w.sheet with
  | none => (.error (.write "No active worksheet"), w)
  | some sheet =>
      let (outcome, sheet) := a.on sheet
      (outcome, { w with sheet := some sheet })

def register (style : Style) : Action Workbook Nat := .of fun w =>
  let (number, styles) := w.styles.register style
  (.ok number, { w with styles })

section Zip

variable [Zip]

def startPart (name : String) (large : Bool) : Action Zip.Writer Unit :=
  (Zip.startPart name large).failingAs ZipFault.toError

def textPart (name content : String) : Action Zip.Writer Unit := do
  startPart name false
  Output.write content.toUTF8

def tokenPart (name : String) (tokens : List Xml.Token) : Action Zip.Writer Unit := do
  startPart name false
  Xml.Writer.writeAll tokens

/-- The part of the sheet, declared large because close to the row limit it can pass 4 GiB. -/
def sheetPart : Action (Window × Zip.Writer) Unit := do
  (startPart "xl/worksheets/sheet1.xml" true).second
  Window.writePart

def parts (now : Timestamp) (styles : StyleSheet) : Action (Window × Zip.Writer) Unit := do
  let name := (← get).1.name
  (do textPart "[Content_Types].xml" WorkbookPart.contentTypes
      textPart "_rels/.rels" WorkbookPart.rootRelations
      textPart "docProps/core.xml" (WorkbookPart.coreProperties now)
      textPart "docProps/app.xml" WorkbookPart.applicationProperties
      tokenPart "xl/workbook.xml" (WorkbookPart.workbookTokens name)
      textPart "xl/_rels/workbook.xml.rels" WorkbookPart.workbookRelations
      tokenPart "xl/styles.xml" styles.tokens : Action Zip.Writer Unit).second
  sheetPart

/-- Ends an archive and flushes the sink that it was written to. -/
def endArchive (zip : Zip.Writer) : Except ExportError Unit × Sink :=
  match Zip.finish zip with
  | (.error fault, sink) => (.error fault.toError, sink)
  | (.ok _, sink) => Output.flush.on sink

def write (now : Timestamp) : Action (Workbook × Sink) Unit := .of fun (w, sink) =>
  match w.sheet with
  | none => (.error (.write "No active worksheet"), w, sink)
  | some sheet =>
      let (outcome, sheet, zip) := (parts now w.styles).on (sheet, Zip.onto sink)
      let (outcome, sink) := match outcome with
        | .ok _ => endArchive zip
        | .error e => (.error e, Zip.abandon zip)
      (outcome, { w with sheet := some sheet }, sink)

end Zip

def dispose (w : Workbook) : Workbook := { w with sheet := w.sheet.map Window.dispose }

end Workbook

end SheetExport
