import SheetExport.Number.Natural

/-!
# Decimal numerals

A numeral is a run of ASCII digits that may begin with a plus sign. `readWord?` reads one that fits
into 64 bits; anything else, the empty text included, is refused.
-/

namespace SheetExport.Text

def isDigit (c : Char) : Bool := '0' ≤ c && c ≤ '9'

def ofDigits (cs : List Char) : Nat :=
  cs.foldl (fun n c => 10 * n + (c.toNat - '0'.toNat)) 0

def readDigits? (cs : List Char) : Option Nat :=
  if cs ≠ [] ∧ cs.all isDigit then some (ofDigits cs) else none

/-- An unsigned numeral, with or without a plus sign, below `2 ^ 64`. -/
def readWord? (s : String) : Option Nat := do
  let n ← readDigits? (match s.toList with
    | '+' :: digits => digits
    | digits => digits)
  if n < 2 ^ 64 then some n else none

/-- A number in at least `width` digits. -/
def padded (width n : Nat) : String :=
  let digits := toString n
  String.ofList (List.replicate (width - digits.length) '0') ++ digits

/-- `n` in lower-case base 16 has these digits, at least `width` of them, in the given alphabet. -/
def hexDigits (n width : Nat) : List Char :=
  let digits := Nat.toDigits 16 n
  List.replicate (width - digits.length) '0' ++ digits

/-- A digit of base 16, in either case. -/
def isHexDigit (c : Char) : Bool :=
  isDigit c || ('a' ≤ c && c ≤ 'f') || ('A' ≤ c && c ≤ 'F')

/-- The value of a digit of base 16. -/
def hexValue (c : Char) : Nat :=
  if isDigit c then c.toNat - '0'.toNat
  else if 'a' ≤ c && c ≤ 'f' then c.toNat - 'a'.toNat + 10
  else c.toNat - 'A'.toNat + 10

/-- The number that a run of base-16 digits denotes. -/
def ofHexDigits (cs : List Char) : Nat :=
  cs.foldl (fun n c => 16 * n + hexValue c) 0

end SheetExport.Text
