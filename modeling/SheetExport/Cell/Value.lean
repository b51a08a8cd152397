import SheetExport.Calendar.DateTime
import SheetExport.Number.Shortest

/-!
# Values of cells

A cell holds nothing, a text, a number, a truth value, a date or a date-time. Dates and date-times
bring a number format of their own, since a sheet stores them as numbers.
-/

namespace SheetExport

inductive CellValue where
  | empty
  | text (s : String)
  | int (n : Int)
  | float (x : Binary64)
  | bool (b : Bool)
  | date (d : Date)
  | dateTime (t : DateTime)
  deriving DecidableEq, Repr

namespace CellValue

def isEmpty : CellValue → Bool
  | empty => true
  | _ => false

def isTemporal : CellValue → Bool
  | date _ | dateTime _ => true
  | _ => false

/-- The number format of a value whose column names none. -/
def defaultPattern : CellValue → Option String
  | date _ => some "yyyy-mm-dd"
  | dateTime _ => some "yyyy-mm-dd hh:mm:ss"
  | _ => none

def toText : CellValue → String
  | empty => ""
  | text s => s
  | int n => toString n
  | float x => x.toText
  | bool b => if b then "true" else "false"
  | date d => d.toText
  | dateTime t => t.toText

/-- A whole number; one that needs more than 63 bits becomes the nearest floating-point number. -/
def ofWord (n : Nat) : CellValue :=
  if n < 2 ^ 63 then int n else float (Binary64.ofInt n)

/-- An absent value is an empty cell. -/
def ofOption {α : Type} (ofValue : α → CellValue) : Option α → CellValue
  | some a => ofValue a
  | none => empty

end CellValue

end SheetExport
