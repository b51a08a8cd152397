/-!
# The elements of a document

`IsDocument` describes the well-formed XML 1.0 documents that have a declaration, a single root element and nothing but
elements, character data and references to the predefined entities in it, with names in ASCII. A document has its
elements in the order of their start tags, each by its name and the names of the elements around it. `elements?` reads
a text from the left, one character at a time, and yields the elements of a document. A tag that is not closed or
closed in another's place, an attribute value without its last quote, an attribute that is there twice, an `&` or a `<`
that stands for itself and a character that XML forbids are all refused.
-/

namespace SheetExport.Xml

/-- The characters that a document may consist of. -/
def isChar (c : Char) : Bool :=
  let n := c.toNat
  n == 0x9 || n == 0xA || n == 0xD || (0x20 ≤ n && n ≤ 0xD7FF) || (0xE000 ≤ n && n ≤ 0xFFFD) ||
  (0x10000 ≤ n && n ≤ 0x10FFFF)

def isSpace (c : Char) : Bool := c == ' ' || c == '\t' || c == '\n' || c == '\r'

/-- The ASCII characters that may begin a name. -/
def isNameStart (c : Char) : Bool := ('A' ≤ c && c ≤ 'Z') || ('a' ≤ c && c ≤ 'z') || c == '_' || c == ':'

/-- The ASCII characters that may follow in a name. -/
def isNamePart (c : Char) : Bool := isNameStart c || ('0' ≤ c && c ≤ '9') || c == '-' || c == '.'

abbrev Name := List Char

def isName : Name → Bool
  | [] => false
  | c :: rest => isNameStart c && rest.all isNamePart

/-- An element by its own name and the names of those around it, from the inside to the outside. -/
abbrev Path := List Name

/-- The names of the predefined entities. -/
def entities : List Name := ["amp", "lt", "gt", "quot", "apos"].map String.toList

/-- The declaration that documents begin with. -/
def declaration : List Char := "<?xml version=\"1.0\" encoding=\"UTF-8\" standalone=\"yes\"?>".toList

/-! ## Well-formed documents

Each piece of a document is described by a text that begins with it and by the rest of that text after it. -/

/-- The value of an attribute, up to its last quote. -/
inductive IsValue : List Char → List Char → Prop where
  | done {rest} : IsValue ('"' :: rest) rest
  | char {c text rest} : isChar c = true → c ≠ '"' → c ≠ '&' → c ≠ '<' → IsValue text rest → IsValue (c :: text) rest
  | reference {entity text rest} : entity ∈ entities → IsValue text rest → IsValue ('&' :: (entity ++ ';' :: text)) rest

/-- Attributes, none of which has a name that is known. -/
inductive IsAttributes : List Name → List Char → List Char → Prop where
  | none {known rest} : IsAttributes known rest rest
  | one {known name value text rest} : isName name = true → name ∉ known → IsValue value text →
      IsAttributes (name :: known) text rest → IsAttributes known (' ' :: (name ++ '=' :: '"' :: value)) rest

mutual

/-- An element with the elements in it, inside of others. -/
inductive IsElement : Path → List Char → List Path → List Char → Prop where
  | empty {around name text rest} : isName name = true → IsAttributes [] text ('/' :: '>' :: rest) →
      IsElement around ('<' :: (name ++ text)) [name :: around] rest
  | full {around name text content elements rest} : isName name = true → IsAttributes [] text ('>' :: content) →
      IsContent (name :: around) content elements ('<' :: '/' :: (name ++ '>' :: rest)) →
      IsElement around ('<' :: (name ++ text)) ((name :: around) :: elements) rest

/-- What may stand between the tags of an element. -/
inductive IsContent : Path → List Char → List Path → List Char → Prop where
  | nothing {around rest} : IsContent around rest [] rest
  | char {around c text elements rest} : isChar c = true → c ≠ '<' → c ≠ '&' → c ≠ '>' →
      IsContent around text elements rest → IsContent around (c :: text) elements rest
  | reference {around entity text elements rest} : entity ∈ entities → IsContent around text elements rest →
      IsContent around ('&' :: (entity ++ ';' :: text)) elements rest
  | element {around text inner middle elements rest} : IsElement around text inner middle →
      IsContent around middle elements rest → IsContent around text (inner ++ elements) rest

end

/-- A declaration and a root element, with nothing but blank characters around it. -/
def IsDocument (text : List Char) (elements : List Path) : Prop :=
  ∃ before root after, text = declaration ++ (before ++ root) ∧ (∀ c ∈ before, isSpace c = true) ∧
    IsElement [] root elements after ∧ ∀ c ∈ after, isSpace c = true

/-! ## Reading -/

/-- Where a reader is. Inside of a start tag it knows the name of the tag and those of the attributes so far. -/
inductive Place where
  /-- Before the root element. -/
  | prolog
  | content
  /-- After the root element. -/
  | epilog
  /-- In a reference, with its name so far. -/
  | reference (entity : Name)
  /-- After a `<`. -/
  | tag
  | startTag (name : Name)
  | attribute (tag : Name) (known : List Name) (name : Name)
  /-- Before the first quote of an attribute. -/
  | quote (tag : Name) (known : List Name)
  | value (tag : Name) (known : List Name)
  | valueReference (tag : Name) (known : List Name) (entity : Name)
  /-- After the last quote of an attribute. -/
  | quoted (tag : Name) (known : List Name)
  /-- After the slash of a tag of an element without content. -/
  | emptyTag (name : Name)
  | endTag (name : Name)
  deriving DecidableEq, Repr

/-- A reader with the names of the open elements, the innermost first, and the elements found, the last one first. -/
structure Reader where
  place : Place
  inside : Path
  found : List Path
  deriving DecidableEq, Repr

namespace Reader

def start : Reader := ⟨.prolog, [], []⟩

def goTo (r : Reader) (place : Place) : Option Reader := some { r with place }

/-- The element of the start tag that ends here is found, and its content follows. -/
def enter (r : Reader) (name : Name) : Reader := ⟨.content, name :: r.inside, (name :: r.inside) :: r.found⟩

/-- What follows the end of an element: more content of the one around it, if there is one. -/
def leave (around : Path) (found : List Path) : Reader :=
  ⟨if around.isEmpty then .epilog else .content, around, found⟩

/-- The end of the name of a start tag, or of an attribute in it. -/
def inTag (r : Reader) (tag : Name) (known : List Name) (c : Char) : Option Reader :=
  if c = ' ' then r.goTo (.attribute tag known [])
  else if c = '/' then r.goTo (.emptyTag tag)
  else if c = '>' then some (r.enter tag)
  else none

/-- One more character of a reference, which leads back to a place at its end. -/
def inReference (r : Reader) (entity : Name) (c : Char) (back : Place) (on : Name → Place) : Option Reader :=
  if c = ';' then if entities.contains entity then r.goTo back else none
  else r.goTo (on (entity ++ [c]))

/-- One character more, unless no document goes on with it. -/
def step (r : Reader) (c : Char) : Option Reader :=
  if isChar c then
    match r.place with
    | .prolog => if isSpace c then some r else if c = '<' then r.goTo .tag else none
    | .content =>
        if c = '<' then r.goTo .tag
        else if c = '&' then r.goTo (.reference [])
        else if c = '>' then none  -- so that `]]>` cannot stand in content
        else some r
    | .epilog => if isSpace c then some r else none
    | .reference entity => r.inReference entity c .content .reference
    | .tag =>
        if c = '/' then r.goTo (.endTag [])
        else if isNameStart c then r.goTo (.startTag [c]) else none
    | .startTag name => if isNamePart c then r.goTo (.startTag (name ++ [c])) else r.inTag name [] c
    | .attribute tag known name =>
        if c = '=' then
          if isName name && !known.contains name then r.goTo (.quote tag (name :: known)) else none
        else r.goTo (.attribute tag known (name ++ [c]))
    | .quote tag known => if c = '"' then r.goTo (.value tag known) else none
    | .value tag known =>
        if c = '"' then r.goTo (.quoted tag known)
        else if c = '&' then r.goTo (.valueReference tag known [])
        else if c = '<' then none
        else some r
    | .valueReference tag known entity => r.inReference entity c (.value tag known) (.valueReference tag known)
    | .quoted tag known => r.inTag tag known c
    | .emptyTag name => if c = '>' then some (leave r.inside ((name :: r.inside) :: r.found)) else none
    | .endTag name =>
        if c = '>' then
          match r.inside with
          | top :: around => if top = name then some (leave around r.found) else none
          | [] => none
        else r.goTo (.endTag (name ++ [c]))
  else none

def run (r : Reader) (text : List Char) : Option Reader := text.foldlM step r

end Reader

/-- The elements of a document; nothing if the text is not one. -/
def elements? (text : String) : Option (List Path) := do
  let body ← declaration.isPrefixOf? text.toList
  let r ← Reader.start.run body
  if r.place = .epilog then some r.found.reverse else none

/-- The number of elements with a name. -/
def countNamed (name : String) (elements : List Path) : Nat :=
  elements.countP fun path => path.head? == some name.toList

end SheetExport.Xml
