import SheetExport.Text.Numeral

/-!
# Texts inside XML

Four characters are written as entities. A character that XML 1.0 forbids is written as `_xHHHH_` with
its code in base 16, a form that spreadsheet readers decode; where a text itself looks like that form,
its first underscore is written as `_x005F_`. `encode` writes a text, `decode` is what a reader makes
of it: first the entities, then the coded characters from left to right.
-/

namespace SheetExport.Xml

/-- Four digits of base 16 and an underscore. -/
def isCodeTail : List Char → Bool
  | a :: b :: c :: d :: '_' :: _ =>
      Text.isHexDigit a && Text.isHexDigit b && Text.isHexDigit c && Text.isHexDigit d
  | _ => false

/-- The text begins with a coded character. -/
def looksCoded : List Char → Bool
  | '_' :: 'x' :: rest => isCodeTail rest
  | _ => false

/-- Characters that XML 1.0 forbids: controls other than tab and line ends, and two non-characters. -/
def isForbidden (c : Char) : Bool :=
  (c.toNat < 0x20 && c ≠ '\t' && c ≠ '\n' && c ≠ '\r') || c.toNat = 0xFFFE || c.toNat = 0xFFFF

def coded (c : Char) : List Char :=
  '_' :: 'x' :: (Text.hexDigits c.toNat 4).map Char.toUpper ++ ['_']

/-- A character outside of a coded form. -/
def encodeChar (c : Char) : List Char :=
  if c = '&' then "&amp;".toList
  else if c = '<' then "&lt;".toList
  else if c = '>' then "&gt;".toList
  else if c = '"' then "&quot;".toList
  else if isForbidden c then coded c
  else [c]

def encode : List Char → List Char
  | [] => []
  | c :: rest =>
      (if looksCoded (c :: rest) then "_x005F_".toList else encodeChar c) ++ encode rest

def escape (s : String) : String := String.ofList (encode s.toList)

/-- Entities read back. -/
def decodeEntities : List Char → List Char
  | '&' :: 'a' :: 'm' :: 'p' :: ';' :: rest => '&' :: decodeEntities rest
  | '&' :: 'l' :: 't' :: ';' :: rest => '<' :: decodeEntities rest
  | '&' :: 'g' :: 't' :: ';' :: rest => '>' :: decodeEntities rest
  | '&' :: 'q' :: 'u' :: 'o' :: 't' :: ';' :: rest => '"' :: decodeEntities rest
  | c :: rest => c :: decodeEntities rest
  | [] => []

/-- Coded characters read back, from left to right and without overlap. -/
def decodeCoded : List Char → List Char
  | '_' :: 'x' :: a :: b :: c :: d :: '_' :: rest =>
      if isCodeTail [a, b, c, d, '_'] then
        Char.ofNat (Text.ofHexDigits [a, b, c, d]) :: decodeCoded rest
      else '_' :: decodeCoded ('x' :: a :: b :: c :: d :: '_' :: rest)
  | c :: rest => c :: decodeCoded rest
  | [] => []

def decode (s : List Char) : List Char := decodeCoded (decodeEntities s)

end SheetExport.Xml
