import SheetExport.Proofs.Sheet.Elements
import SheetExport.Proofs.Sheet.Reached
import SheetExport.Proofs.Xml.Grammar
import SheetExport.Workbook.Parts
import SheetExport.Workbook.Styles

/-! # The documents of a workbook

The sheet, the workbook and its styles are written as documents whose elements do not depend on any text in them: not
on texts in cells, on the name of the sheet or on number formats. Only which rows a worksheet has depends on the calls
that led to its sheet.
-/

namespace SheetExport

open Xml Xml.Reader

namespace WorkbookPart

/-- The elements of a workbook with one sheet. -/
def outline : List Path :=
  [["workbook".toList], ["sheets".toList, "workbook".toList], ["sheet".toList, "sheets".toList, "workbook".toList]]

/-- Whatever its sheet is called, a workbook has that one sheet. -/
theorem elements?_workbook (name : String) : elements? (render (workbookTokens name)) = some outline := by
  have line : (WorkbookPart.declaration ++ "\n").toList = Xml.declaration ++ ['\n'] := by
    rw [String.toList_append]
    rfl
  have opens : start.takeAll [.startTag "workbook",
      .attr "xmlns" "http://schemas.openxmlformats.org/spreadsheetml/2006/main",
      .attr "xmlns:r" "http://schemas.openxmlformats.org/officeDocument/2006/relationships", .close] =
      some ⟨.content, ["workbook".toList], [["workbook".toList]]⟩ := rfl
  have sheet : Yields [.startTag "sheets", .close, .startTag "sheet", .attr "name" name, .intAttr "sheetId" 1,
      .attr "r:id" "rId1", .closeEmpty, .endTag "sheets"] ["workbook".toList]
      [["sheets".toList, "workbook".toList], ["sheet".toList, "sheets".toList, "workbook".toList]] := fun _ => rfl
  have document := elements?_document line opens rfl sheet
  rw [workbookTokens, outline]
  simpa only [List.cons_append, List.nil_append] using document

end WorkbookPart

namespace StyleSheet

def rootPath : Path := ["styleSheet".toList]

def patternsPath : Path := "numFmts".toList :: rootPath

def patternPath : Path := "numFmt".toList :: patternsPath

def formatsPath : Path := "cellXfs".toList :: rootPath

def formatPath : Path := "xf".toList :: formatsPath

def alignmentPath : Path := "alignment".toList :: formatPath

theorem patternTokens_yield (patterns : List String) (id : Nat) :
    Yields (patternTokens patterns id) patternsPath (patterns.map fun _ => patternPath) := by
  induction patterns generalizing id with
  | nil => exact .nil _
  | cons pattern patterns ih =>
      have first : Yields [.startTag "numFmt", .intAttr "numFmtId" id, .attr "formatCode" pattern, .closeEmpty]
        patternsPath [patternPath] := fun _ => rfl
      exact first.append (ih (id + 1))

theorem lookTables_yield : ∃ look, Yields [.raw lookTables] rootPath look ∧
    (look.count patternPath = 0 ∧ look.count formatPath = 0) := by
  -- the letters of the chunks are found first: to evaluate `toList` on all of the text would take too long
  exact Yields.raw (toList_join (by repeat' constructor)) (by decide +kernel)

theorem cellStyles_yield : ∃ names,
    Yields [.raw "<cellStyles count=\"1\"><cellStyle name=\"Normal\" xfId=\"0\" builtinId=\"0\"/></cellStyles>"]
      rootPath names ∧
    (names.count patternPath = 0 ∧ names.count formatPath = 0) :=
  Yields.raw rfl (by decide +kernel)

/-- The elements of a format are its own and that of its alignment. -/
def formatOutline (f : CellFormat) : List Path :=
  formatPath :: if f.centred then [alignmentPath] else []

/-- The attributes that some formats have are not written twice. -/
theorem flagTokens_taken (found : List Path) (hasNumber hasFont hasFill hasBorder : Bool) :
    ∃ known, known.contains "applyAlignment".toList = false ∧
      takeAll ⟨.quoted "xf".toList (["xfId", "borderId", "fillId", "fontId", "numFmtId"].map String.toList),
          formatsPath, found⟩
        (flagTokens "applyNumberFormat" hasNumber ++ flagTokens "applyFont" hasFont ++
          flagTokens "applyFill" hasFill ++ flagTokens "applyBorder" hasBorder) =
      some ⟨.quoted "xf".toList known, formatsPath, found⟩ := by
  cases hasNumber <;> cases hasFont <;> cases hasFill <;> cases hasBorder <;> exact ⟨_, rfl, rfl⟩

theorem alignment_yield : Yields [.raw "<alignment horizontal=\"center\" vertical=\"center\"/>"] formatPath
    [alignmentPath] := by
  have read : ∃ elements, Yields [.raw "<alignment horizontal=\"center\" vertical=\"center\"/>"] formatPath elements ∧
      elements = [alignmentPath] := Yields.raw rfl (by decide +kernel)
  obtain ⟨_, alignment, rfl⟩ := read
  exact alignment

theorem formatTokens_yield (f : CellFormat) : Yields (formatTokens f) formatsPath (formatOutline f) := by
  intro found
  obtain ⟨known, fresh, flags⟩ := flagTokens_taken found (f.numberFormat ≠ 0) (f.font ≠ 0) (f.fill ≠ 0)
    (f.border ≠ 0)
  have opens : takeAll ⟨.content, formatsPath, found⟩ [.startTag "xf", .intAttr "numFmtId" f.numberFormat,
      .intAttr "fontId" f.font, .intAttr "fillId" f.fill, .intAttr "borderId" f.border, .intAttr "xfId" 0] =
      some ⟨.quoted "xf".toList (["xfId", "borderId", "fillId", "fontId", "numFmtId"].map String.toList),
        formatsPath, found⟩ := rfl
  rw [formatTokens, formatOutline]
  simp only [List.append_assoc, takeAll_append_of opens]
  rw [← List.append_assoc, ← List.append_assoc, ← List.append_assoc, takeAll_append_of flags]
  cases f.centred with
  | false => rfl
  | true =>
      have applied : take ⟨.quoted "xf".toList known, formatsPath, found⟩ (.intAttr "applyAlignment" 1) =
          some ⟨.quoted "xf".toList ("applyAlignment".toList :: known), formatsPath, found⟩ :=
        takeAttribute_quoted rfl fresh
      have closes : take ⟨.quoted "xf".toList ("applyAlignment".toList :: known), formatsPath, found⟩ .close =
          some ⟨.content, formatPath, formatPath :: found⟩ := rfl
      rw [if_pos rfl, takeAll_cons_of applied, takeAll_cons_of closes]
      exact takeAll_append_of (alignment_yield _) [.endTag "xf"]

def patternsOutline (patterns : List String) : List Path :=
  if patterns.isEmpty then [] else patternsPath :: patterns.map fun _ => patternPath

theorem patterns_yield (patterns : List String) :
    Yields (if patterns.isEmpty then []
      else [.startTag "numFmts", .intAttr "count" patterns.length, .close] ++
        patternTokens patterns firstCustomFormat ++ [.endTag "numFmts"]) rootPath (patternsOutline patterns) := by
  rw [patternsOutline]
  cases patterns.isEmpty with
  | true => exact .nil _
  | false => exact Yields.element (fun _ => rfl) rfl (patternTokens_yield patterns firstCustomFormat)

theorem count_patternsOutline (patterns : List String) :
    (patternsOutline patterns).count patternPath = patterns.length ∧
      (patternsOutline patterns).count formatPath = 0 := by
  have other : patternsPath ≠ patternPath ∧ patternsPath ≠ formatPath ∧ patternPath ≠ formatPath := by decide
  cases patterns with
  | nil => exact ⟨rfl, rfl⟩
  | cons pattern patterns => simp [patternsOutline, List.map_const', List.count_replicate, other]

theorem count_formats (entries : List (Style × CellFormat)) :
    (entries.flatMap fun e => formatOutline e.2).count patternPath = 0 ∧
      (entries.flatMap fun e => formatOutline e.2).count formatPath = entries.length := by
  have other : formatPath ≠ patternPath ∧ alignmentPath ≠ formatPath ∧ alignmentPath ≠ patternPath := by decide
  induction entries with
  | nil => exact ⟨rfl, rfl⟩
  | cons e entries ih =>
      have first : (formatOutline e.2).count patternPath = 0 ∧ (formatOutline e.2).count formatPath = 1 := by
        rw [formatOutline]
        cases e.2.centred with
        | true => simp [other]
        | false => simp [other]
      constructor
      · rw [List.flatMap_cons, List.count_append, first.1, ih.1]
      · rw [List.flatMap_cons, List.count_append, first.2, ih.2, List.length_cons, Nat.add_comm]

/-- Whatever its number formats are, a style sheet has one element for each of them and one for each style. -/
theorem elements?_styles (s : StyleSheet) : ∃ elements, elements? (render s.tokens) = some elements ∧
    elements.count patternPath = s.patterns.length ∧ elements.count formatPath = s.size := by
  have opens : start.takeAll [.startTag "styleSheet",
      .attr "xmlns" "http://schemas.openxmlformats.org/spreadsheetml/2006/main", .close] =
      some ⟨.content, ["styleSheet".toList], [["styleSheet".toList]]⟩ := rfl
  have each (e : Style × CellFormat) : Yields (formatTokens e.2) formatsPath (formatOutline e.2) :=
    formatTokens_yield e.2
  have formats : Yields ([.startTag "cellXfs", .intAttr "count" s.size, .close] ++
      s.entries.flatMap (fun e => formatTokens e.2) ++ [.endTag "cellXfs"]) rootPath
      (formatsPath :: s.entries.flatMap fun e => formatOutline e.2) :=
    Yields.element (fun _ => rfl) rfl (Yields.flatMap each s.entries)
  obtain ⟨look, looks, lookPatterns, lookFormats⟩ := lookTables_yield
  obtain ⟨names, named, namesPatterns, namesFormats⟩ := cellStyles_yield
  have document : elements? _ = some (rootPath :: (patternsOutline s.patterns ++ look ++
      (formatsPath :: s.entries.flatMap fun e => formatOutline e.2) ++ names)) :=
    elements?_document toList_declaration opens rfl
      ((((patterns_yield s.patterns).append looks).append formats).append named)
  have other : rootPath ≠ patternPath ∧ rootPath ≠ formatPath ∧ formatsPath ≠ patternPath ∧
    formatsPath ≠ formatPath := by decide
  obtain ⟨patterns, patternsFormats⟩ := count_patternsOutline s.patterns
  obtain ⟨formatsPatterns, formats⟩ := count_formats s.entries
  refine ⟨rootPath :: (patternsOutline s.patterns ++ look ++
    (formatsPath :: s.entries.flatMap fun e => formatOutline e.2) ++ names), ?_, ?_, ?_⟩
  · rw [tokens, ← document]
    simp only [List.append_assoc, List.cons_append, List.nil_append]
  · simp [patterns, formatsPatterns, lookPatterns, namesPatterns, other]
  · simp [patternsFormats, formats, lookFormats, namesFormats, other, size]

end StyleSheet

namespace Window

section

variable [Gzip]

/-- A worksheet with some rows has an element for each of them, and for each of their cells that is not omitted. -/
structure IsWorksheet (w : Window) (rows : List Row) (text : String) : Prop where
  spelled : text = render w.headTokens ++ (Row.textOf rows ++ "</sheetData></worksheet>")
  wellFormed : IsDocument text.toList (w.outline rows)
  read : elements? text = some (w.outline rows)
  rowElements : countNamed "row" (w.outline rows) = rows.length
  cellElements : countNamed "c" (w.outline rows) = (rows.flatMap Row.cells).countP fun c => !c.isOmitted

theorem isWorksheet_partText (w : Window) (spilled : List Row) :
    IsWorksheet w (spilled ++ w.resident) (w.partText spilled) :=
  have read := elements?_worksheet w (spilled ++ w.resident)
  ⟨rfl, isDocument_of_elements? read, read, countRows_worksheet w _, countCells_worksheet w _⟩

variable [LawfulGzip] {disk : Disk} {w : Window} {spilled rows : List Row} {lapses : Nat}
variable {ω : Type} [Output ω] {H : ByteArray → ω → Prop}

/-- What is written of a sheet that was not disposed of is well-formed whatever its texts, and so are its workbook and
    its styles, as long as the disk has not failed; the sheet is written if it does not fail now. The rows of the
    worksheet are those whose calls came through exactly if no call has failed after it had begun. -/
theorem written_parts_well_formed (reached : Reached disk w spilled rows lapses 0) (all : TakesAll H)
    {taken : ByteArray} {s : ω} (ready : H taken s) (sheetName : String) (styles : StyleSheet) :
    (w.spill = none → writePart.on (w, s) = (.error (SheetFault.disposed w.name).toError, w, s)) ∧
    (w.spill ≠ none → ∃ text, IsWorksheet w (spilled ++ w.resident) text ∧
      writePart.ComesTo (w, s) (disk ≠ .sound) (fun _ x => H (taken ++ text.toUTF8) x.2) ∧
      (spilled ++ w.resident = rows ↔ lapses = 0)) ∧
    IsDocument (render (WorkbookPart.workbookTokens sheetName)).toList WorkbookPart.outline ∧
    ∃ elements, IsDocument (render styles.tokens).toList elements ∧
      elements.count StyleSheet.patternPath = styles.patterns.length ∧
      elements.count StyleSheet.formatPath = styles.size := by
  obtain ⟨elements, read, patterns, formats⟩ := StyleSheet.elements?_styles styles
  refine ⟨fun gone => writePart_disposed gone s, fun there => ?_,
    isDocument_of_elements? (WorkbookPart.elements?_workbook sheetName),
    elements, isDocument_of_elements? read, patterns, formats⟩
  obtain gone | follows := reached.followed
  · exact absurd gone there
  · obtain ⟨⟨_, holds⟩, -, traced⟩ := follows rfl
    exact ⟨_, isWorksheet_partText w spilled, (writePart_comes all.takes holds ready).imp (Or.resolve_right · not_false)
      fun _ _ => And.right, traced.held_eq_iff⟩

end

/-- A text that spells tags, next to a cell that is omitted. -/
theorem written_parts_well_formed_tags :
    let cells : List Cell := [⟨.text "</c></row><row r=\"2\"> & ]]>", 0⟩, ⟨.empty, 0⟩]
    ∃ text elements v t, writePart.on (single cells, Sink.unlimited) = (.ok (), v, t) ∧
      Sink.Open (.empty ++ text.toUTF8) t ∧ elements? text = some elements ∧
      countNamed "row" elements = 1 ∧ countNamed "c" elements = 1 := by
  intro cells
  obtain ⟨-, parts, -⟩ := written_parts_well_formed (reached_single cells rfl) Sink.takesAll
    (s := Sink.unlimited) ⟨rfl, rfl, rfl⟩ "a < b" .initial
  obtain ⟨text, worksheet, writes, -⟩ := parts (by simp [single, add, create])
  obtain ⟨_, ⟨v, t⟩, wrote, ready⟩ := writes.through (not_not_intro rfl)
  exact ⟨text, _, v, t, wrote, ready, worksheet.read, worksheet.rowElements, worksheet.cellElements⟩

/-- A sheet that was asked to page out after its worksheet was written has no row in its worksheet any more. -/
theorem flush_after_writing_empties_worksheet :
    ∃ w text elements v t, Reached .sound w [] [⟨0, [⟨.int 1, 0⟩]⟩] 1 0 ∧
      writePart.on (w, Sink.unlimited) = (.ok (), v, t) ∧
      Sink.Open (.empty ++ text.toUTF8) t ∧ elements? text = some elements ∧
      countNamed "row" elements = 0 ∧ countNamed "c" elements = 0 := by
  obtain ⟨w, reached, holds, resident⟩ := exists_reached_written [⟨.int 1, 0⟩] rfl
  have closed : ¬w.TakesRows := by
    rintro ⟨spill, there, unfinished⟩
    obtain ⟨_, there', finished, -⟩ := holds
    obtain rfl := Option.some.inj (there.symm.trans there')
    exact Bool.false_ne_true (unfinished.symm.trans finished)
  have begun : ¬(Call.pageOut 0).IsRefused w := by
    obtain ⟨_, there, -⟩ := holds
    simp [Call.IsRefused, there]
  have reached := reached.lapsed (pageOut_written holds resident) begun closed
  obtain ⟨_, ⟨v, t⟩, wrote, -, ready⟩ := (writePart_comes Sink.takesAll.takes
    (w := { w with resident := [] }) holds (s := Sink.unlimited) ⟨rfl, rfl, rfl⟩).through (by simp)
  have worksheet := isWorksheet_partText { w with resident := [] } []
  exact ⟨_, _, _, v, t, reached, wrote, ready, worksheet.read, worksheet.rowElements, worksheet.cellElements⟩

end Window

end SheetExport
