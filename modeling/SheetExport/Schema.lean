import SheetExport.Cell.Value

/-!
# Schemas

A schema says how entities become rows: the name of the sheet, the headers, the widths and number formats
of columns, and the values that an entity puts into its row. Where it gives no width or format there is a
default. Taking the values of an entity may go wrong so badly that the whole export breaks off.
-/

namespace SheetExport

/-- Why taking the values of an entity broke off. -/
inductive Breakdown where
  | message (text : String)
  /-- Nothing is known of the reason. -/
  | unexplained
  deriving DecidableEq, Repr

structure Schema (α : Type) where
  sheetName : String
  entityName : String
  headers : List String
  widths : List Nat
  /-- The number formats of columns that have one of their own. -/
  patterns : List (Option String)
  row : α → Except Breakdown (List CellValue)

structure Column (α : Type) where
  header : String
  width : Nat
  pattern : Option String
  value : α → Except Breakdown CellValue

namespace Schema

variable {α : Type}

/-- The width of a column that has none of its own. -/
def defaultWidth : Nat := 15

/-- At least one width for every header. -/
def resolvedWidths (s : Schema α) : List Nat :=
  s.widths ++ List.replicate (s.headers.length - s.widths.length) defaultWidth

def ofColumns (sheetName entityName : String) (columns : List (Column α)) : Schema α where
  sheetName
  entityName
  headers := columns.map Column.header
  widths := columns.map Column.width
  patterns := columns.map Column.pattern
  row a := columns.mapM fun c => c.value a

end Schema

end SheetExport
