import SheetExport.Text.Blank

/-!
# Texts that a sheet would take for a formula

A text whose first character after leading blanks is one of `=`, `+`, `-` and `@` would be evaluated by
a spreadsheet program. `disarmFormula` puts an apostrophe in front of it and leaves all other texts.
-/

namespace SheetExport

def isFormulaLead (c : Char) : Bool := c == '=' || c == '+' || c == '-' || c == '@'

def startsFormula (s : List Char) : Bool :=
  match s.dropWhile Text.isBlank with
  | c :: _ => isFormulaLead c
  | [] => false

/-- The text with an apostrophe before it if it would be taken for a formula. -/
def disarmFormula (s : String) : String :=
  if startsFormula s.toList then "'" ++ s else s

end SheetExport
