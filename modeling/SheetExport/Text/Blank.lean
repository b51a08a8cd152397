/-!
# Blank and control characters

`isBlank` holds for the characters with the Unicode property White_Space, `isControl` for those of
general category Cc. `trim` takes blank characters off both ends of a text.
-/

namespace SheetExport.Text

/-- White space in the sense of the Unicode property White_Space. -/
def isBlank (c : Char) : Bool :=
  let n := c.toNat
  (9 ≤ n && n ≤ 13) || n == 32 || n == 0x85 || n == 0xA0 || n == 0x1680 ||
  (0x2000 ≤ n && n ≤ 0x200A) || n == 0x2028 || n == 0x2029 || n == 0x202F ||
  n == 0x205F || n == 0x3000

/-- The control characters: the first 32, DEL and the 32 after it. -/
def isControl (c : Char) : Bool :=
  c.toNat < 0x20 || (0x7F ≤ c.toNat && c.toNat < 0xA0)

/-- A text without the blank characters at its ends. -/
def trim (s : String) : String :=
  String.ofList (((s.toList.dropWhile isBlank).reverse.dropWhile isBlank).reverse)

/-- Nothing but blank characters. -/
def isBlankText (s : String) : Bool := s.toList.all isBlank

end SheetExport.Text
