/-!
# Column letters and cell references

Columns are written in bijective base 26: A to Z, then AA and so on. `columnLetters` writes a column
that counts from zero, `columnNumber` reads letters as a column that counts from one.
-/

namespace SheetExport

/-- The letter of a digit of bijective base 26, 0 for A. -/
def letterOf (digit : Nat) : Char := Char.ofNat ('A'.toNat + digit)

/-- The letters of a positive number in bijective base 26. -/
def bijectiveLetters (n : Nat) : List Char :=
  if n = 0 then [] else bijectiveLetters ((n - 1) / 26) ++ [letterOf ((n - 1) % 26)]
decreasing_by omega

/-- The letters of a column; the first column is 0. -/
def columnLetters (column : Nat) : String := String.ofList (bijectiveLetters (column + 1))

/-- The number that letters denote in bijective base 26. -/
def columnNumber (letters : List Char) : Nat :=
  letters.foldl (fun n c => 26 * n + (c.toNat - 'A'.toNat + 1)) 0

/-- The reference of a cell, such as B7; row and column count from zero. -/
def cellReference (row column : Nat) : String := columnLetters column ++ toString (row + 1)

end SheetExport
