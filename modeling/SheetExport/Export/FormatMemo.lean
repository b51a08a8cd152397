import SheetExport.Keyed
import SheetExport.Workbook.Basic

/-!
# Formats of values, remembered

An export registers the style of its values once for each number format. It remembers the numbers that it was
given and does not ask the style sheet for them again.
-/

namespace SheetExport

/-- The numbers of the styles that values were given so far. -/
structure FormatMemo where
  /-- The number of the style without a number format. -/
  base : Option Nat
  /-- The numbers of the styles with a number format, by that format. -/
  byPattern : Keyed Nat

namespace FormatMemo

def empty : FormatMemo := ⟨none, []⟩

def find? (memo : FormatMemo) : Option String → Option Nat
  | none => memo.base
  | some pattern => memo.byPattern.find? pattern

def add (memo : FormatMemo) (number : Nat) : Option String → FormatMemo
  | none => { memo with base := some number }
  | some pattern => { memo with byPattern := memo.byPattern.insert pattern number }

/-- The number of the style of a value with a number format, registered when it is asked for first. -/
def numberFor [Gzip] (border : Bool) (pattern : Option String) : Action (Workbook × FormatMemo) Nat := do
  match (← get).2.find? pattern with
  | some number => return number
  | none =>
      let number ← (Workbook.register ⟨pattern, false, border⟩).first
      modify fun (book, memo) => (book, memo.add number pattern)
      return number

end FormatMemo

end SheetExport
