import SheetExport.Calendar.Timestamp
import SheetExport.Xml.Token

/-!
# The fixed parts of a workbook

Besides its sheet and its styles a workbook holds parts that say what it consists of. They depend on
the name of the sheet and on the time of writing alone.
-/

namespace SheetExport.WorkbookPart

def declaration : String := "<?xml version=\"1.0\" encoding=\"UTF-8\" standalone=\"yes\"?>"

def contentTypes : String := "\n".intercalate [
  declaration,
  "<Types xmlns=\"http://schemas.openxmlformats.org/package/2006/content-types\">",
  "<Default Extension=\"rels\" ContentType=\"application/vnd.openxmlformats-package.relationships+xml\"/>",
  "<Default Extension=\"xml\" ContentType=\"application/xml\"/>",
  "<Override PartName=\"/xl/workbook.xml\" ContentType=\"application/vnd.openxmlformats-officedocument.spreadsheetml.sheet.main+xml\"/>",
  "<Override PartName=\"/xl/worksheets/sheet1.xml\" ContentType=\"application/vnd.openxmlformats-officedocument.spreadsheetml.worksheet+xml\"/>",
  "<Override PartName=\"/xl/styles.xml\" ContentType=\"application/vnd.openxmlformats-officedocument.spreadsheetml.styles+xml\"/>",
  "<Override PartName=\"/docProps/core.xml\" ContentType=\"application/vnd.openxmlformats-package.core-properties+xml\"/>",
  "<Override PartName=\"/docProps/app.xml\" ContentType=\"application/vnd.openxmlformats-officedocument.extended-properties+xml\"/>",
  "</Types>"]

/-- Where the workbook and its properties are. -/
def rootRelations : String := "\n".intercalate [
  declaration,
  "<Relationships xmlns=\"http://schemas.openxmlformats.org/package/2006/relationships\">",
  "<Relationship Id=\"rId1\" Type=\"http://schemas.openxmlformats.org/officeDocument/2006/relationships/officeDocument\" Target=\"xl/workbook.xml\"/>",
  "<Relationship Id=\"rId2\" Type=\"http://schemas.openxmlformats.org/package/2006/relationships/metadata/core-properties\" Target=\"docProps/core.xml\"/>",
  "<Relationship Id=\"rId3\" Type=\"http://schemas.openxmlformats.org/officeDocument/2006/relationships/extended-properties\" Target=\"docProps/app.xml\"/>",
  "</Relationships>"]

/-- A point in time to the second. -/
def wholeSeconds (t : Timestamp) : String :=
  t.date.toText ++ "T" ++ { t with nano := 0, nano_lt := DateTime.zero_nano_lt }.timeText ++ "Z"

/-- The creator and the time of writing. -/
def coreProperties (now : Timestamp) : String := "\n".intercalate [
  declaration,
  String.join [
    "<cp:coreProperties xmlns:cp=\"http://schemas.openxmlformats.org/package/2006/metadata/core-properties\"",
    " xmlns:dc=\"http://purl.org/dc/elements/1.1/\" xmlns:dcterms=\"http://purl.org/dc/terms/\"",
    " xmlns:xsi=\"http://www.w3.org/2001/XMLSchema-instance\">"],
  "<dc:creator>sheetstream</dc:creator>",
  "<dcterms:created xsi:type=\"dcterms:W3CDTF\">" ++ wholeSeconds now ++ "</dcterms:created>",
  "<dcterms:modified xsi:type=\"dcterms:W3CDTF\">" ++ wholeSeconds now ++ "</dcterms:modified>",
  "</cp:coreProperties>"]

def applicationProperties : String := "\n".intercalate [
  declaration,
  "<Properties xmlns=\"http://schemas.openxmlformats.org/officeDocument/2006/extended-properties\">",
  "<Application>sheetstream</Application>",
  "<DocSecurity>0</DocSecurity>",
  "<ScaleCrop>false</ScaleCrop>",
  "<LinksUpToDate>false</LinksUpToDate>",
  "<SharedDoc>false</SharedDoc>",
  "<HyperlinksChanged>false</HyperlinksChanged>",
  "</Properties>"]

/-- Where the sheet and the styles are. -/
def workbookRelations : String := "\n".intercalate [
  declaration,
  "<Relationships xmlns=\"http://schemas.openxmlformats.org/package/2006/relationships\">",
  "<Relationship Id=\"rId1\" Type=\"http://schemas.openxmlformats.org/officeDocument/2006/relationships/worksheet\" Target=\"worksheets/sheet1.xml\"/>",
  "<Relationship Id=\"rId2\" Type=\"http://schemas.openxmlformats.org/officeDocument/2006/relationships/styles\" Target=\"styles.xml\"/>",
  "</Relationships>"]

open Xml

/-- The workbook part, which names its only sheet. -/
def workbookTokens (sheetName : String) : List Token :=
  [.raw (declaration ++ "\n"), .startTag "workbook",
    .attr "xmlns" "http://schemas.openxmlformats.org/spreadsheetml/2006/main",
    .attr "xmlns:r" "http://schemas.openxmlformats.org/officeDocument/2006/relationships", .close,
    .startTag "sheets", .close, .startTag "sheet", .attr "name" sheetName, .intAttr "sheetId" 1,
    .attr "r:id" "rId1", .closeEmpty, .endTag "sheets", .endTag "workbook"]

end SheetExport.WorkbookPart
