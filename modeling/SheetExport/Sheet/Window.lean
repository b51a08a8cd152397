import SheetExport.Sheet.Letters
import SheetExport.Sheet.Spill

/-!
# A sheet with a window of rows in memory

A `Window` keeps its newest rows in memory and pages older ones out to a spill file as soon as there
are more than it may keep. `writePart` writes it as a worksheet: the spilled rows, then the rows in memory.
-/

namespace SheetExport

variable [Gzip]

def maxRows : Nat := 1048576

def maxColumns : Nat := 16384

/-- A sheet of which at most `capacity` rows stay in memory. -/
structure Window where
  name : String
  /-- The widths of the columns, in characters. -/
  widths : List Nat
  capacity : Nat
  resident : List Row
  /-- Where older rows are; gone once the sheet is disposed of. -/
  spill : Option Spill
  /-- One more than the index of the last row. -/
  rowCount : Nat
  /-- The letters of the columns that were needed so far. -/
  letters : LetterTable

inductive SheetFault where
  | rowBeyondLimit (index : Nat)
  | rowAlreadyWritten (index next : Nat)
  | tooManyColumns (count : Nat)
  | notFinite (row column : Nat) (value : Binary64)
  | disposed (name : String)

def SheetFault.toError : SheetFault → ExportError
  | .rowBeyondLimit index => .write ("row index " ++ toString index ++
      " exceeds the sheet limit of " ++ toString maxRows ++ " rows")
  | .rowAlreadyWritten index next => .write ("row " ++ toString index ++
      " already written (next row is " ++ toString next ++ ")")
  | .tooManyColumns count => .write (toString count ++ " columns exceed the sheet limit of " ++
      toString maxColumns)
  | .notFinite row column value =>
      .cellValue row column (value.toText ++ " cannot be stored in a cell")
  | .disposed name => .write ("sheet '" ++ name ++ "' already disposed")

namespace Window

/-- An empty sheet; it keeps at least one row in memory. -/
def create (name : String) (capacity : Nat) (compressed : Bool) (disk : Disk := .sound) : Window :=
  { name, widths := [], capacity := max capacity 1, resident := [],
    spill := some (.create compressed disk), rowCount := 0, letters := .empty }

/-- The rows paged out so far. -/
def spilledRows (w : Window) : Nat := (w.spill.map Spill.rows).getD 0

/-- The first number among the cells that is not finite, with its column. -/
def firstNotFinite : List Cell → Nat → Option (Nat × Binary64)
  | [], _ => none
  | ⟨.float x, _⟩ :: rest, column =>
      if x.isFinite then firstNotFinite rest (column + 1) else some (column, x)
  | _ :: rest, column => firstNotFinite rest (column + 1)

/-- Why a row is refused, if it is. -/
def refusal? (w : Window) (index : Nat) (cells : List Cell) : Option SheetFault :=
  if maxRows ≤ index then some (.rowBeyondLimit index)
  else if index < w.rowCount then some (.rowAlreadyWritten index w.rowCount)
  else if maxColumns < cells.length then some (.tooManyColumns cells.length)
  else (firstNotFinite cells 0).map fun (column, x) => .notFinite index column x

/-- An action on the spill of a sheet that has not been disposed of. -/
def onSpill {α : Type} (a : Action Spill α) : Action Window α := .of fun w =>
  match w.spill with
  | none => (.error (SheetFault.disposed w.name).toError, w)
  | some spill =>
      let (outcome, spill) := a.on spill
      (outcome, { w with spill := some spill })

/-- The tokens of a row, with letters that are kept for the rows to come. -/
def tokensOf (r : Row) : Action Window (List Xml.Token) := .of fun w =>
  let (tokens, letters) := r.tokensBy w.letters
  (.ok tokens, { w with letters })

/-- Takes the oldest row out of memory and appends it to the spill. A row that the spill does not
    accept any more is gone. -/
def pageRow : Action Window Unit := do
  match (← get).resident with
  | [] => pure ()
  | row :: rest =>
      modify fun w => { w with resident := rest }
      onSpill Spill.demandUnfinished
      let tokens ← tokensOf row
      onSpill (Spill.append tokens)

def pageRows : Nat → Action Window Unit
  | 0 => pure ()
  | n + 1 => do
      pageRow
      pageRows n

/-- Pages out all rows but the newest `keep` and flushes the spill. -/
def pageOut (keep : Nat) : Action Window Unit := do
  onSpill (pure ())
  pageRows ((← get).resident.length - keep)
  onSpill Spill.flush

/-- Adds the row with the given index, which must be larger than that of every earlier row. A refused
    row changes nothing; a row that is accepted stays even if paging older ones out fails. -/
def append (index : Nat) (cells : List Cell) : Action Window Unit := do
  let w ← get
  if let some fault := w.refusal? index cells then throw fault.toError
  set { w with resident := w.resident ++ [Row.mk index cells], rowCount := index + 1 }
  if w.capacity < w.resident.length + 1 then pageOut w.capacity

/-- The number of columns that the sheet claims to have: as many as there are widths or cells in a row
    in memory, and at least one. -/
def columnCount (w : Window) : Nat :=
  max (max w.widths.length ((w.resident.map fun r => r.cells.length).foldl max 0)) 1

open Xml

def columnTokens : List Nat → Nat → List Token
  | [], _ => []
  | width :: rest, number =>
      [.startTag "col", .intAttr "min" number, .intAttr "max" number, .intAttr "width" width,
        .intAttr "customWidth" 1, .closeEmpty] ++ columnTokens rest (number + 1)

/-- The worksheet up to its first row. -/
def headTokens (w : Window) : List Token :=
  [.raw "<?xml version=\"1.0\" encoding=\"UTF-8\" standalone=\"yes\"?>\n",
    .startTag "worksheet",
    .attr "xmlns" "http://schemas.openxmlformats.org/spreadsheetml/2006/main",
    .attr "xmlns:r" "http://schemas.openxmlformats.org/officeDocument/2006/relationships",
    .close] ++
  (if w.rowCount = 0 then []
    else [.startTag "dimension",
      .attr "ref" ("A1:" ++ columnLetters (w.columnCount - 1) ++ toString w.rowCount),
      .closeEmpty]) ++
  (if w.widths.isEmpty then []
    else [.startTag "cols", .close] ++ columnTokens w.widths 1 ++ [.endTag "cols"]) ++
  [.startTag "sheetData", .close]

/-- The worksheet from some rows on. -/
def tailTokens : List Row → Action Window (List Token)
  | [] => pure [.endTag "sheetData", .endTag "worksheet"]
  | r :: rest => do
      let tokens ← tokensOf r
      return tokens ++ (← tailTokens rest)

/-- An action on the spill of a sheet that has not been disposed of, and on an output. -/
def onSpillWith {α ω : Type} (a : Action (Spill × ω) α) : Action (Window × ω) α := .of fun (w, out) =>
  match w.spill with
  | none => (.error (SheetFault.disposed w.name).toError, w, out)
  | some spill =>
      let (outcome, spill, out) := a.on (spill, out)
      (outcome, { w with spill := some spill }, out)

/-- Writes the worksheet to an output. The spill is finished as soon as the head has been taken. -/
def writePart {ω : Type} [Output ω] : Action (Window × ω) Unit := do
  (onSpill (pure ())).first
  let w := (← get).1
  (Writer.writeAll w.headTokens).second
  let _ ← onSpillWith Spill.copyTo
  let tail ← (tailTokens w.resident).first
  (Writer.writeAll tail).second

def dispose (w : Window) : Window := { w with resident := [], spill := none }

end Window

end SheetExport
