import SheetExport.Cell.Reference
import SheetExport.Cell.Serial
import SheetExport.Cell.Value
import SheetExport.Text.Blank
import SheetExport.Xml.Token

/-!
# Rows of a sheet

A cell is a value with the number of its format. `Row.tokens` is the row as it stands in a worksheet:
cells that are empty and unformatted are left out, texts stand inside their cells, and dates are
written as serial numbers.
-/

namespace SheetExport

/-- A value and the number of its cell format; format 0 is the default. -/
structure Cell where
  value : CellValue
  format : Nat
  deriving DecidableEq, Repr

/-- The cells of one row; the first row has index 0. -/
structure Row where
  index : Nat
  cells : List Cell
  deriving DecidableEq, Repr

open Xml

/-- The text begins or ends with a blank character, which a reader may drop unless told not to. -/
def hasBlankEnd (s : String) : Bool :=
  (s.toList.head?.map Text.isBlank).getD false || (s.toList.getLast?.map Text.isBlank).getD false

def numberTokens (number : Token) : List Token :=
  [.close, .startTag "v", .close, number, .endTag "v", .endTag "c"]

/-- What follows the attributes that all cells have. -/
def CellValue.tokens : CellValue → List Token
  | .empty => [.closeEmpty]
  | .text s =>
      [.attr "t" "inlineStr", .close, .startTag "is", .close, .startTag "t"] ++
      (if hasBlankEnd s then [.attr "xml:space" "preserve"] else []) ++
      [.close, .text s, .endTag "t", .endTag "is", .endTag "c"]
  | .int n => numberTokens (.int n)
  | .float x => numberTokens (.float x)
  | .bool b => .attr "t" "b" :: numberTokens (.int (if b then 1 else 0))
  | .date d => numberTokens (.float d.serial)
  | .dateTime t => numberTokens (.float t.serial)

namespace Cell

/-- A cell that is not written. -/
def isOmitted (c : Cell) : Bool := c.value.isEmpty && c.format == 0

/-- The cell at a place, unless it is omitted. -/
def tokens (c : Cell) (row column : Nat) : List Token :=
  if c.isOmitted then []
  else [.startTag "c", .attr "r" (cellReference row column)] ++
    (if c.format = 0 then [] else [.intAttr "s" c.format]) ++ c.value.tokens

end Cell

namespace Row

def cellTokens (row : Nat) : List Cell → Nat → List Token
  | [], _ => []
  | c :: rest, column => c.tokens row column ++ cellTokens row rest (column + 1)

def tokens (r : Row) : List Token :=
  [.startTag "row", .intAttr "r" (r.index + 1 : Nat), .close] ++ cellTokens r.index r.cells 0 ++
    [.endTag "row"]

def toText (r : Row) : String := render r.tokens

end Row

end SheetExport
