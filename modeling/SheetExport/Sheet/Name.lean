import SheetExport.Text.Blank

/-!
# Names of sheets

A spreadsheet program accepts a sheet name of 1 to 31 characters without brackets, colons, asterisks,
question marks, slashes and control characters that neither begins nor ends with an apostrophe
(`IsSheetName`). `mendSheetName` makes such a name out of any text.
-/

namespace SheetExport

/-- The greatest number of characters of a sheet name. -/
def maxSheetNameLength : Nat := 31

def isForbiddenInSheetName (c : Char) : Bool :=
  ['[', ']', ':', '*', '?', '/', '\\'].contains c || Text.isControl c

/-- A blank for every forbidden character. -/
def mendCharacter (c : Char) : Char := if isForbiddenInSheetName c then ' ' else c

/-- A blank for an apostrophe. -/
def mendEnd (c : Char) : Char := if c = '\x27' then ' ' else mendCharacter c

/-- The characters of a safe name, given those of a text that has not more than the longest name. -/
def mendName : List Char → List Char
  | [] => []
  | [c] => [mendEnd c]
  | c :: rest => mendEnd c :: (rest.dropLast.map mendCharacter ++
      (rest.getLast?.map mendEnd).toList)

/-- A sheet name close to the given text; the empty text becomes `empty`. -/
def mendSheetName (name : String) : String :=
  if name.isEmpty then "empty"
  else String.ofList (mendName (name.toList.take maxSheetNameLength))

def IsSheetName (name : List Char) : Prop :=
  1 ≤ name.length ∧ name.length ≤ maxSheetNameLength ∧
  (∀ c ∈ name, isForbiddenInSheetName c = false) ∧
  name.head? ≠ some '\x27' ∧ name.getLast? ≠ some '\x27'

end SheetExport
