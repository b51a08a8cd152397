/-!
# Engines for patterns

Filters leave patterns to an engine: it compiles them and searches texts for them, and it alone says which
patterns there are.
-/

namespace SheetExport

class RegexEngine where
  /-- What patterns are compiled to. -/
  Compiled : Type
  /-- A pattern that is ready for use, or why there is none, in the words of the engine. -/
  compile : String → Except String Compiled
  /-- The pattern matches somewhere in a text. -/
  isMatch : Compiled → String → Bool

end SheetExport
