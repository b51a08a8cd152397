import SheetExport.Filter.Engine
import SheetExport.Pattern.Parse

/-!
# The engine that is run

Patterns of this engine are regular expressions over sets of characters.
-/

namespace SheetExport

/-- What is said of a pattern that is refused. A report on one that cannot be read goes on to quote the pattern and to
    point into it; only how it begins is kept. -/
def PatternFault.message : PatternFault → String
  | .tooLarge => "Compiled regex exceeds size limit of " ++ toString maxPatternBytes ++ " bytes."
  | _ => "regex parse error:"

instance Pattern.engine : RegexEngine where
  Compiled := Pattern
  compile text := (Pattern.ofText? text).mapError PatternFault.message
  isMatch := Pattern.matchesIn

end SheetExport
