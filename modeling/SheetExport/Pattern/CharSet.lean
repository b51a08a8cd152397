import SheetExport.Pattern.Category
import SheetExport.Pattern.Folding
import SheetExport.Pattern.Table
import SheetExport.Text.Blank

/-!
# Sets of characters

The sets that a pattern can name, closed under union, intersection, complement and indifference to
case. `CharSet.contains` says which characters such a set holds.
-/

namespace SheetExport

/-- A set of characters in the form in which a pattern names it. -/
inductive CharSet where
  | nothing
  | range (first last : Char)
  | categories (cs : List Category)
  | blank
  /-- Characters of words: letters, marks, digits and connectors. -/
  | word
  | union (a b : CharSet)
  | inter (a b : CharSet)
  | compl (a : CharSet)
  /-- The characters that differ in case alone from a character of the set. -/
  | folded (a : CharSet)
  deriving Repr

def wordCategories : List Category :=
  [.Lu, .Ll, .Lt, .Lm, .Lo, .Mn, .Mc, .Me, .Nd, .Nl, .Pc]

/-- Circled and squared letters, which are symbols and yet belong to words. -/
def isEnclosedLetter (n : Nat) : Bool :=
  (0x24B6 ≤ n && n ≤ 0x24E9) || (0x1F130 ≤ n && n ≤ 0x1F149) || (0x1F150 ≤ n && n ≤ 0x1F169) ||
    (0x1F170 ≤ n && n ≤ 0x1F189)

/-- Characters of words, among them the two that join or separate letters without being seen. -/
def isWordChar (c : Char) : Bool :=
  wordCategories.contains (category c) || isEnclosedLetter c.toNat || c.toNat == 0x200C ||
    c.toNat == 0x200D

namespace CharSet

def contains : CharSet → Char → Bool
  | nothing, _ => false
  | range first last, c => first ≤ c && c ≤ last
  | categories cs, c => cs.contains (category c)
  | blank, c => Text.isBlank c
  | word, c => isWordChar c
  | union a b, c => a.contains c || b.contains c
  | inter a b, c => a.contains c && b.contains c
  | compl a, c => !a.contains c
  | folded a, c => (caseVariants c).any a.contains

def single (c : Char) : CharSet := range c c

def anything : CharSet := compl nothing

def unionAll : List CharSet → CharSet
  | [] => nothing
  | [a] => a
  | a :: rest => union a (unionAll rest)

def ofRanges (ranges : List (Char × Char)) : CharSet := unionAll (ranges.map fun r => range r.1 r.2)

/-- The characters of one set that are not in the other. -/
def diff (a b : CharSet) : CharSet := inter a (compl b)

/-- The characters that are in one of two sets but not in both. -/
def symmDiff (a b : CharSet) : CharSet := union (diff a b) (diff b a)

def complIf (negated : Bool) (a : CharSet) : CharSet := if negated then compl a else a

def foldedIf (ignoresCase : Bool) (a : CharSet) : CharSet := if ignoresCase then folded a else a

/-- The characters of ASCII. -/
def ascii : CharSet := range '\x00' '\x7F'

/-- The set stays within ASCII as far as characters of one byte go. -/
def isAscii (a : CharSet) : Bool :=
  (List.range 128).all fun i => !a.contains (Char.ofNat (128 + i))

def posix : List (String × List (Char × Char)) := [
  ("alnum", [('0', '9'), ('A', 'Z'), ('a', 'z')]),
  ("alpha", [('A', 'Z'), ('a', 'z')]),
  ("ascii", [('\x00', '\x7F')]),
  ("blank", [('\t', '\t'), (' ', ' ')]),
  ("cntrl", [('\x00', '\x1F'), ('\x7F', '\x7F')]),
  ("digit", [('0', '9')]),
  ("graph", [('!', '~')]),
  ("lower", [('a', 'z')]),
  ("print", [(' ', '~')]),
  ("punct", [('!', '/'), (':', '@'), ('[', '\x60'), ('\x7B', '~')]),
  ("space", [('\t', '\r'), (' ', ' ')]),
  ("upper", [('A', 'Z')]),
  ("word", [('0', '9'), ('A', 'Z'), ('_', '_'), ('a', 'z')]),
  ("xdigit", [('0', '9'), ('A', 'F'), ('a', 'f')])]

def posix? (name : String) : Option CharSet := (posix.lookup name).map ofRanges

def ofTable (table : List String) : CharSet := ofRanges (readRanges table)

/-- A name of a property or of its value as it counts: without case, blanks, hyphens, underscores and
    what is not ASCII, and without a leading `is`, unless only a `c` would be left. -/
def plainName (name : List Char) : String :=
  let plain (cs : List Char) : List Char :=
    (cs.filter fun c => c.toNat < 128 ∧ c ≠ ' ' ∧ c ≠ '-' ∧ c ≠ '_').map Char.toLower
  let bare := plain (name.drop 2)
  String.ofList
    (if (name.take 2).map Char.toLower = ['i', 's'] ∧ bare ≠ ['c'] then bare else plain name)

def alphabetic : CharSet :=
  union (categories [.Lu, .Ll, .Lt, .Lm, .Lo, .Nl]) (ofTable alphabeticMarks)

def lowercase : CharSet := union (categories [.Ll]) (ofTable lowercaseSigns)

def uppercase : CharSet := union (categories [.Lu]) (ofTable uppercaseSigns)

/-- The characters that have a property; its name is plain. -/
def binary? : String → Option CharSet
  | "alphabetic" | "alpha" => some alphabetic
  | "lowercase" | "lower" => some lowercase
  | "uppercase" | "upper" => some uppercase
  | "cased" => some (unionAll [lowercase, uppercase, categories [.Lt]])
  | "whitespace" | "wspace" | "space" => some blank
  | "dash" => some (ofTable dashes)
  | "math" => some (ofTable mathSigns)
  | "emoji" => some (ofTable emoji)
  | "ideographic" | "ideo" => some (ofTable ideographs)
  | "hexdigit" | "hex" => some (ofTable hexDigitSigns)
  | "asciihexdigit" | "ahex" => some (ofRanges [('0', '9'), ('A', 'F'), ('a', 'f')])
  | "joincontrol" | "joinc" => some (range '\u200C' '\u200D')
  | _ => none

/-- The characters of one or several general categories; the name is plain. -/
def ofCategory? : String → Option CharSet
  | "any" => some anything
  | "ascii" => some ascii
  | "assigned" => some (compl (categories [.Cn]))
  | name => (Category.named? name).map categories

def ofScript? (name : String) : Option CharSet := (scriptRanges? name).map ofRanges

def property? (name : String) : Option CharSet :=
  binary? name <|> ofCategory? name <|> ofScript? name

/-- The set of the characters for which a property has a value; both names are plain. -/
def propertyValue? (property value : String) : Option CharSet :=
  match property with
  | "gc" | "generalcategory" => ofCategory? value
  | "sc" | "script" => ofScript? value
  | _ => none

end CharSet

end SheetExport
