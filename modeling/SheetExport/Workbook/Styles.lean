import SheetExport.Xml.Token

/-!
# Cell formats

A `StyleSheet` numbers the styles that cells ask for, in the order in which they are first asked for;
style 0 is the default one. Number formats are built in, with fixed ids, or custom, with ids from 164
on in the order of their first use.
-/

namespace SheetExport

structure Style where
  pattern : Option String
  /-- Bold on grey and centred. -/
  header : Bool
  /-- A thin border on all sides. -/
  border : Bool
  deriving DecidableEq, Repr

def Style.plain : Style := ⟨none, false, false⟩

structure CellFormat where
  numberFormat : Nat
  font : Nat
  fill : Nat
  border : Nat
  centred : Bool
  deriving DecidableEq, Repr

/-- The number formats that need no declaration, with their ids. -/
def builtInFormats : List (String × Nat) :=
  [("General", 0), ("0", 1), ("0.00", 2), ("#,##0", 3), ("#,##0.00", 4), ("0%", 9), ("0.00%", 10),
    ("0.00E+00", 11), ("m/d/yy", 14), ("h:mm", 20), ("h:mm:ss", 21), ("m/d/yy h:mm", 22), ("@", 49)]

/-- The id of the first custom number format. -/
def firstCustomFormat : Nat := 164

/-- The styles and number formats that are known. The number of a style is its place among the entries, where its format
    is too, and the id of a custom number format follows from its place among the patterns. That numbers, formats and
    ids belong together is thus part of the shape, as long as nothing that is known changes its place. -/
structure StyleSheet where
  /-- The custom number formats, in the order of their ids. -/
  patterns : List String
  /-- The styles with their formats, in the order of their numbers. -/
  entries : List (Style × CellFormat)
  deriving DecidableEq, Repr

namespace StyleSheet

/-- The default style alone. -/
def initial : StyleSheet := ⟨[], [(.plain, ⟨0, 0, 0, 0, false⟩)]⟩

def size (s : StyleSheet) : Nat := s.entries.length

/-- The id of a number format, and the custom formats once it is known. -/
def formatId (patterns : List String) (pattern : String) : Nat × List String :=
  match builtInFormats.lookup pattern with
  | some id => (id, patterns)
  | none =>
      match patterns.idxOf? pattern with
      | some i => (firstCustomFormat + i, patterns)
      | none => (firstCustomFormat + patterns.length, patterns ++ [pattern])

def formatOf (style : Style) (numberFormat : Nat) : CellFormat :=
  { numberFormat, font := if style.header then 1 else 0, fill := if style.header then 2 else 0,
    border := if style.border then 1 else 0, centred := style.header }

/-- The number of a style, which becomes known if it is new. -/
def register (s : StyleSheet) (style : Style) : Nat × StyleSheet :=
  match s.entries.findIdx? fun e => e.1 = style with
  | some i => (i, s)
  | none =>
      let (id, patterns) := match style.pattern with
        | some pattern => formatId s.patterns pattern
        | none => (0, s.patterns)
      (s.size, ⟨patterns, s.entries ++ [(style, formatOf style id)]⟩)

open Xml

def patternTokens : List String → Nat → List Token
  | [], _ => []
  | pattern :: rest, id =>
      [.startTag "numFmt", .intAttr "numFmtId" id, .attr "formatCode" pattern, .closeEmpty] ++
        patternTokens rest (id + 1)

/-- An attribute that is written only where it is set. -/
def flagTokens (name : String) (isSet : Bool) : List Token :=
  if isSet then [.intAttr name 1] else []

def formatTokens (f : CellFormat) : List Token :=
  [.startTag "xf", .intAttr "numFmtId" f.numberFormat, .intAttr "fontId" f.font,
    .intAttr "fillId" f.fill, .intAttr "borderId" f.border, .intAttr "xfId" 0] ++
  flagTokens "applyNumberFormat" (f.numberFormat ≠ 0) ++ flagTokens "applyFont" (f.font ≠ 0) ++
  flagTokens "applyFill" (f.fill ≠ 0) ++ flagTokens "applyBorder" (f.border ≠ 0) ++
  if f.centred then
    [.intAttr "applyAlignment" 1, .close,
      .raw "<alignment horizontal=\"center\" vertical=\"center\"/>", .endTag "xf"]
  else [.closeEmpty]

/-- The fonts, fills and borders that formats refer to. -/
def lookTables : String := String.join [
  "<fonts count=\"2\">",
  "<font><sz val=\"11\"/><name val=\"Calibri\"/><family val=\"2\"/></font>",
  "<font><b/><sz val=\"11\"/><name val=\"Calibri\"/><family val=\"2\"/></font>",
  "</fonts>",
  "<fills count=\"3\">",
  "<fill><patternFill patternType=\"none\"/></fill>",
  "<fill><patternFill patternType=\"gray125\"/></fill>",
  "<fill><patternFill patternType=\"solid\"><fgColor rgb=\"FFD9D9D9\"/><bgColor indexed=\"64\"/>",
  "</patternFill></fill>",
  "</fills>",
  "<borders count=\"2\">",
  "<border><left/><right/><top/><bottom/><diagonal/></border>",
  "<border><left style=\"thin\"><color auto=\"1\"/></left>",
  "<right style=\"thin\"><color auto=\"1\"/></right>",
  "<top style=\"thin\"><color auto=\"1\"/></top>",
  "<bottom style=\"thin\"><color auto=\"1\"/></bottom><diagonal/></border>",
  "</borders>",
  "<cellStyleXfs count=\"1\"><xf numFmtId=\"0\" fontId=\"0\" fillId=\"0\" borderId=\"0\"/></cellStyleXfs>"]

def tokens (s : StyleSheet) : List Token :=
  [.raw "<?xml version=\"1.0\" encoding=\"UTF-8\" standalone=\"yes\"?>\n", .startTag "styleSheet",
    .attr "xmlns" "http://schemas.openxmlformats.org/spreadsheetml/2006/main", .close] ++
  (if s.patterns.isEmpty then []
    else [.startTag "numFmts", .intAttr "count" s.patterns.length, .close] ++
      patternTokens s.patterns firstCustomFormat ++ [.endTag "numFmts"]) ++
  [.raw lookTables, .startTag "cellXfs", .intAttr "count" s.size, .close] ++
  s.entries.flatMap (fun e => formatTokens e.2) ++
  [.endTag "cellXfs",
    .raw "<cellStyles count=\"1\"><cellStyle name=\"Normal\" xfId=\"0\" builtinId=\"0\"/></cellStyles>",
    .endTag "styleSheet"]

end StyleSheet

end SheetExport
