import SheetExport.Cell.Value

/-!
# The order of values

Values of one kind are ordered as their kind is; whole and floating-point numbers are ordered together,
after the whole number has been rounded to a floating-point one. Any two other values have no order,
and neither has a NaN with anything.
-/

namespace SheetExport.CellValue

/-- The order of two values, if they have one. -/
def order : CellValue → CellValue → Option Ordering
  | bool a, bool b => some (compare a b)
  | int m, int n => some (compare m n)
  | float x, float y => x.order y
  | int m, float y => (Binary64.ofInt m).order y
  | float x, int n => x.order (Binary64.ofInt n)
  | text s, text t => some (compare s t)
  | date d, date e => some (d.order e)
  | dateTime t, dateTime u => some (t.order u)
  | empty, empty => some .eq
  | _, _ => none

/-- The two values are equal in this order. -/
def matchesValue (a b : CellValue) : Bool := a.order b == some .eq

end SheetExport.CellValue
