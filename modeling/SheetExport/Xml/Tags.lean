import SheetExport.Text.Numeral
import SheetExport.Xml.Document

/-!
# The tags of a document

`elements?` tells which elements a document has. `tags?` reads the same documents in the same way, and yields with each
element the attributes of its start tag, with the values as they are written.
-/

namespace SheetExport.Xml

/-- The start tag of an element with its attributes, in their order and as they are written. -/
structure Tag where
  path : Path
  attributes : List (Name × List Char)
  deriving DecidableEq, Repr

namespace Tag

/-- The value of an attribute, as it is written. -/
def value? (t : Tag) (name : String) : Option (List Char) := t.attributes.lookup name.toList

/-- The value of an attribute that is a number. -/
def number? (t : Tag) (name : String) : Option Nat := (t.value? name).bind Text.readDigits?

/-- The element is inside of one that has a path. -/
def isInside (path : Path) (t : Tag) : Bool := t.path ≠ path && path.isSuffixOf t.path

end Tag

/-- The elements with a path, each as its own tag followed by those of the elements inside of it. -/
def elementsAt (path : Path) : List Tag → List (List Tag)
  | [] => []
  | t :: rest =>
      if t.path = path then (t :: rest.takeWhile (Tag.isInside path)) :: elementsAt path rest else elementsAt path rest

/-- A reader with the attributes of the start tag that it is in and the tags found, the last ones first. -/
structure TagReader where
  reader : Reader
  attributes : List (Name × List Char)
  tags : List Tag
  deriving DecidableEq, Repr

namespace TagReader

def start : TagReader := ⟨.start, [], []⟩

/-- Attributes, the first of which has one more character in its value. -/
def extended (c : Char) : List (Name × List Char) → List (Name × List Char)
  | (name, value) :: rest => (name, value ++ [c]) :: rest
  | [] => []

/-- The start tag of an element ends. -/
def tagged (s : TagReader) (name : Name) : TagReader :=
  { s with attributes := [], tags := ⟨name :: s.reader.inside, s.attributes.reverse⟩ :: s.tags }

/-- What is noted of a character, given where the reader is. -/
def note (s : TagReader) (c : Char) : TagReader :=
  match s.reader.place with
  | .attribute _ _ name => if c = '=' then { s with attributes := (name, []) :: s.attributes } else s
  | .value .. => if c = '"' then s else { s with attributes := extended c s.attributes }
  | .valueReference .. => { s with attributes := extended c s.attributes }
  | .startTag name | .quoted name _ | .emptyTag name => if c = '>' then s.tagged name else s
  | _ => s

def step (s : TagReader) (c : Char) : Option TagReader :=
  (s.reader.step c).map fun r => { s.note c with reader := r }

def run (s : TagReader) (text : List Char) : Option TagReader := text.foldlM step s

end TagReader

/-- The tags of a document; nothing if the text is not one. -/
def tags? (text : String) : Option (List Tag) := do
  let body ← declaration.isPrefixOf? text.toList
  let s ← TagReader.start.run body
  if s.reader.place = .epilog then some s.tags.reverse else none

end SheetExport.Xml
