import SheetExport.Number.Shortest
import SheetExport.Xml.Escape

/-!
# Pieces of an XML document

A document is a list of tokens. A token is written in one or more chunks, after each of which a
`Writer` may pass on what it has gathered; `Token.toText` is what the token adds to the document.
-/

namespace SheetExport.Xml

/-- A number as a sheet holds it: as a whole number if it is one below `10 ^ 15`, otherwise by its
    shortest decimal. -/
def numberText (x : Binary64) : String :=
  match x.toInt? with
  | some n => if n.natAbs < 10 ^ 15 then toString n else x.toText
  | none => x.toText

inductive Token where
  | raw (s : String)
  | int (n : Int)
  | float (x : Binary64)
  /-- A start tag without its end, so that attributes can follow. -/
  | startTag (name : String)
  | endTag (name : String)
  | emptyTag (name : String)
  | attr (name value : String)
  | intAttr (name : String) (value : Int)
  | close
  /-- The end of a start tag of an element without content. -/
  | closeEmpty
  /-- Text written so that it reads back as itself. -/
  | text (s : String)
  deriving Repr, DecidableEq

namespace Token

def chunks : Token → List String
  | raw s => [s]
  | int n => [toString n]
  | float x => [numberText x]
  | startTag name => ["<" ++ name]
  | endTag name => ["</" ++ name ++ ">"]
  | emptyTag name => ["<" ++ name ++ "/>"]
  | attr name value => [" " ++ name ++ "=\"" ++ escape value, "\""]
  | intAttr name value => [" " ++ name ++ "=\"" ++ toString value, "\""]
  | close => [">"]
  | closeEmpty => ["/>"]
  | text s => [escape s]

def toText (t : Token) : String := String.join t.chunks

end Token

def render (tokens : List Token) : String := String.join (tokens.map Token.toText)

end SheetExport.Xml
