import SheetExport.Proofs.Cell.Reference
import SheetExport.Proofs.Sheet.Elements
import SheetExport.Proofs.Xml.Tags

/-! # The tags of cells

In a written worksheet each cell that is not omitted has a tag, which says where the cell is and, unless it has the
default format, the number of its format. No other tag is taken for that of a cell.
-/

namespace SheetExport

open Xml

/-- The reference of a range from the first cell on. -/
theorem escape_range (row column : Nat) :
    escape ("A1:" ++ cellReference row column) = "A1:" ++ cellReference row column := by
  have plain : ∀ c ∈ ("A1:" ++ cellReference row column).toList, ('0' ≤ c ∧ c ≤ ':') ∨ ('A' ≤ c ∧ c ≤ 'Z') := by
    intro c inside
    rw [String.toList_append] at inside
    cases List.mem_append.mp inside with
    | inl first =>
        have known : c = 'A' ∨ c = '1' ∨ c = ':' := by simpa using first
        rcases known with rfl | rfl | rfl <;> decide
    | inr last => exact plain_cellReference row column c last
  rw [escape, encode_reference plain, String.ofList_toList]

/-! ## Cells -/

def Window.rowPath : Path := "row".toList :: Window.sheetDataPath

def Window.cellPath : Path := "c".toList :: Window.rowPath

/-- The attributes by which a value says of what kind it is. -/
def CellValue.kindAttributes : CellValue → List (Name × List Char)
  | .text _ => [("t".toList, "inlineStr".toList)]
  | .bool _ => [("t".toList, "b".toList)]
  | _ => []

/-- The tags inside of a cell. -/
def CellValue.tags (cell : Path) : CellValue → List Tag
  | .empty => []
  | .text s => [⟨"is".toList :: cell, []⟩, ⟨"t".toList :: "is".toList :: cell,
      if hasBlankEnd s then [("xml:space".toList, "preserve".toList)] else []⟩]
  | _ => [⟨"v".toList :: cell, []⟩]

/-- The attributes of a cell at a place. -/
def Cell.attributes (c : Cell) (row column : Nat) : List (Name × List Char) :=
  ("r".toList, (cellReference row column).toList) ::
    ((if c.format = 0 then [] else [("s".toList, (toString (c.format : Int)).toList)]) ++ c.value.kindAttributes)

/-- The tag of a cell at a place in its row. -/
def Cell.tag (around : Path) (c : Cell) (row column : Nat) : Tag := ⟨"c".toList :: around, c.attributes row column⟩

def Cell.tags (around : Path) (c : Cell) (row column : Nat) : List Tag :=
  if c.isOmitted then [] else c.tag around row column :: c.value.tags ("c".toList :: around)

open Xml.TagReader

variable {top : Name} {around : Path} {known : List Name} {found : List Path} {told : List Tag}
  {attributes : List (Name × List Char)}

theorem numberTokens_noted {number : Token}
    (plain : ∀ inside found told, take ⟨⟨.content, inside, found⟩, [], told⟩ number =
      some ⟨⟨.content, inside, found⟩, [], told⟩) :
    takeAll ⟨⟨.quoted "c".toList known, top :: around, found⟩, attributes.reverse, told⟩ (numberTokens number) =
      some ⟨⟨.content, top :: around,
        ("v".toList :: "c".toList :: top :: around) :: ("c".toList :: top :: around) :: found⟩, [],
        ⟨"v".toList :: "c".toList :: top :: around, []⟩ :: ⟨"c".toList :: top :: around, attributes⟩ :: told⟩ := by
  have opens : takeAll ⟨⟨.content, "c".toList :: top :: around, ("c".toList :: top :: around) :: found⟩, [],
      ⟨"c".toList :: top :: around, attributes⟩ :: told⟩ [.startTag "v", .close] =
      some ⟨⟨.content, "v".toList :: "c".toList :: top :: around,
        ("v".toList :: "c".toList :: top :: around) :: ("c".toList :: top :: around) :: found⟩, [],
        ⟨"v".toList :: "c".toList :: top :: around, []⟩ :: ⟨"c".toList :: top :: around, attributes⟩ :: told⟩ := rfl
  rw [show numberTokens number = .close :: ([.startTag "v", .close] ++ number :: [.endTag "v", .endTag "c"]) from rfl,
    takeAll_cons_of take_close, takeAll_append_of opens, takeAll_cons_of (plain _ _ _)]
  rfl

/-- What follows the attributes that all cells have leads to the end of the cell, whatever its value. -/
theorem valueTokens_noted (v : CellValue) (fresh : known.contains "t".toList = false) :
    takeAll ⟨⟨.quoted "c".toList known, top :: around, found⟩, attributes.reverse, told⟩ v.tokens =
      some ⟨⟨.content, top :: around, ((v.tags ("c".toList :: top :: around)).map Tag.path).reverse ++
          ("c".toList :: top :: around) :: found⟩, [],
        (v.tags ("c".toList :: top :: around)).reverse ++
          ⟨"c".toList :: top :: around, attributes ++ v.kindAttributes⟩ :: told⟩ := by
  have number (number : Token) (plain : ∀ inside found told, take ⟨⟨.content, inside, found⟩, [], told⟩ number =
      some ⟨⟨.content, inside, found⟩, [], told⟩) (v : CellValue) (kind : v.kindAttributes = [])
      (inner : v.tags ("c".toList :: top :: around) = [⟨"v".toList :: "c".toList :: top :: around, []⟩]) :
      takeAll ⟨⟨.quoted "c".toList known, top :: around, found⟩, attributes.reverse, told⟩ (numberTokens number) =
        some ⟨⟨.content, top :: around, ((v.tags ("c".toList :: top :: around)).map Tag.path).reverse ++
            ("c".toList :: top :: around) :: found⟩, [],
          (v.tags ("c".toList :: top :: around)).reverse ++
            ⟨"c".toList :: top :: around, attributes ++ v.kindAttributes⟩ :: told⟩ := by
    rw [kind, inner, List.append_nil]
    exact numberTokens_noted plain
  cases v with
  | empty =>
      have kind : CellValue.empty.kindAttributes = [] := rfl
      rw [CellValue.tokens, takeAll_cons_of (take_closeEmpty (List.cons_ne_nil _ _)), kind, List.append_nil]
      rfl
  | text s =>
      have inline : (escape "inlineStr").toList = "inlineStr".toList := by decide
      rw [CellValue.tokens, List.append_assoc, List.cons_append, takeAll_cons_of (take_attr rfl fresh _), inline,
        List.cons_append, takeAll_cons_of take_close, CellValue.tags, CellValue.kindAttributes]
      cases hasBlankEnd s with
      | false => rfl
      | true => rfl
  | bool b =>
      have kind : (escape "b").toList = "b".toList := by decide
      rw [CellValue.tokens, takeAll_cons_of (take_attr rfl fresh _), kind]
      exact numberTokens_noted fun _ _ _ => rfl
  | int n => exact number _ (fun _ _ _ => rfl) (.int n) rfl rfl
  | float x => exact number _ (fun _ _ _ => rfl) (.float x) rfl rfl
  | date d => exact number _ (fun _ _ _ => rfl) (.date d) rfl rfl
  | dateTime t => exact number _ (fun _ _ _ => rfl) (.dateTime t) rfl rfl

theorem cellTokens_tell (c : Cell) (row column : Nat) :
    Tells (c.tokens row column) (top :: around) (c.tags (top :: around) row column) := by
  intro found told
  rw [Cell.tokens, Cell.tags]
  cases c.isOmitted with
  | true => rfl
  | false =>
      have opens : takeAll ⟨⟨.content, top :: around, found⟩, [], told⟩ [.startTag "c",
          .attr "r" (cellReference row column)] = some ⟨⟨.quoted "c".toList ["r".toList], top :: around, found⟩,
            [("r".toList, (escape (cellReference row column)).toList)].reverse, told⟩ := rfl
      rw [escape_cellReference] at opens
      rw [if_neg Bool.false_ne_true, if_neg Bool.false_ne_true, List.append_assoc, takeAll_append_of opens, Cell.tag,
        Cell.attributes]
      by_cases plain : c.format = 0
      · rw [if_pos plain, if_pos plain, List.nil_append, valueTokens_noted c.value rfl]
        simp
      · have format : take ⟨⟨.quoted "c".toList ["r".toList], top :: around, found⟩,
            [("r".toList, (cellReference row column).toList)].reverse, told⟩ (.intAttr "s" c.format) =
            some ⟨⟨.quoted "c".toList ["s".toList, "r".toList], top :: around, found⟩,
              ([("r".toList, (cellReference row column).toList)] ++
                [("s".toList, (toString (c.format : Int)).toList)]).reverse, told⟩ := take_intAttr rfl rfl c.format
        rw [if_neg plain, if_neg plain, List.singleton_append, takeAll_cons_of format, valueTokens_noted c.value rfl]
        simp

/-! ## Rows -/

/-- The tags of cells in a row, from a column on. -/
def Row.cellTags (around : Path) (row : Nat) (cells : List Cell) (column : Nat) : List Tag :=
  (cells.zipIdx column).flatMap fun (c, column) => c.tags around row column

def Row.tags (rows : Path) (r : Row) : List Tag :=
  ⟨"row".toList :: rows, [("r".toList, (toString ((r.index + 1 : Nat) : Int)).toList)]⟩ ::
    Row.cellTags ("row".toList :: rows) r.index r.cells 0

theorem cellsTokens_tell (row : Nat) (cells : List Cell) (column : Nat) :
    Tells (Row.cellTokens row cells column) (top :: around) (Row.cellTags (top :: around) row cells column) := by
  induction cells generalizing column with
  | nil => exact .nil _
  | cons c cells ih =>
      rw [Row.cellTags, List.zipIdx_cons, List.flatMap_cons]
      exact (cellTokens_tell c row column).append (ih (column + 1))

theorem rowTokens_tell (r : Row) {top : String} {around : Path} :
    Tells r.tokens (top.toList :: around) (r.tags (top.toList :: around)) :=
  Tells.element (fun _ _ => rfl) rfl (cellsTokens_tell r.index r.cells 0)

namespace Window

/-! ## Worksheets -/

theorem columnTokens_tell (widths : List Nat) (number : Nat) :
    ∃ tags, Tells (columnTokens widths number) columnsPath tags ∧ ∀ t ∈ tags, columnsPath <:+ t.path := by
  induction widths generalizing number with
  | nil => exact ⟨[], .nil _, fun t inside => absurd inside List.not_mem_nil⟩
  | cons width widths ih =>
      obtain ⟨tags, told, inner⟩ := ih (number + 1)
      have first : Tells [.startTag "col", .intAttr "min" number, .intAttr "max" number, .intAttr "width" width,
        .intAttr "customWidth" 1, .closeEmpty] columnsPath [⟨"col".toList :: columnsPath,
          [("min".toList, (toString (number : Int)).toList), ("max".toList, (toString (number : Int)).toList),
            ("width".toList, (toString (width : Int)).toList), ("customWidth".toList, (toString (1 : Int)).toList)]⟩] :=
        fun _ _ => rfl
      refine ⟨_, first.append told, fun t inside => ?_⟩
      cases List.mem_cons.mp inside with
      | inl own => exact own ▸ List.suffix_cons _ _
      | inr later => exact inner t later

theorem columnsTokens_tell (widths : List Nat) :
    ∃ tags, Tells (if widths.isEmpty then [] else [.startTag "cols", .close] ++ columnTokens widths 1 ++
      [.endTag "cols"]) worksheetPath tags ∧ ∀ t ∈ tags, columnsPath <:+ t.path := by
  cases widths.isEmpty with
  | true => exact ⟨[], .nil _, fun t inside => absurd inside List.not_mem_nil⟩
  | false =>
      obtain ⟨tags, told, inner⟩ := columnTokens_tell widths 1
      refine ⟨⟨columnsPath, []⟩ :: tags, Tells.element (fun _ _ => rfl) rfl told, fun t inside => ?_⟩
      cases List.mem_cons.mp inside with
      | inl own => exact own ▸ List.suffix_rfl
      | inr later => exact inner t later

def dimensionPath : Path := "dimension".toList :: worksheetPath

/-- The tag that tells how far a sheet reaches; one without rows has none. -/
def dimensionTags [Gzip] (w : Window) : List Tag :=
  if w.rowCount = 0 then []
  else [⟨dimensionPath, [("ref".toList, ("A1:" ++ cellReference (w.rowCount - 1) (w.columnCount - 1)).toList)]⟩]

theorem dimensionTokens_tell [Gzip] (w : Window) :
    Tells (if w.rowCount = 0 then [] else [.startTag "dimension",
      .attr "ref" ("A1:" ++ columnLetters (w.columnCount - 1) ++ toString w.rowCount), .closeEmpty]) worksheetPath
      w.dimensionTags := by
  rw [dimensionTags]
  by_cases empty : w.rowCount = 0
  · rw [if_pos empty, if_pos empty]
    exact .nil _
  · have reference : "A1:" ++ columnLetters (w.columnCount - 1) ++ toString w.rowCount =
        "A1:" ++ cellReference (w.rowCount - 1) (w.columnCount - 1) := by
      rw [cellReference, Nat.sub_add_cancel (Nat.pos_of_ne_zero empty), String.append_assoc]
    have told (reference : String) : Tells [.startTag "dimension", .attr "ref" reference, .closeEmpty] worksheetPath
        [⟨dimensionPath, [("ref".toList, (escape reference).toList)]⟩] := fun _ _ => rfl
    have told := told ("A1:" ++ cellReference (w.rowCount - 1) (w.columnCount - 1))
    rw [escape_range] at told
    rw [if_neg empty, if_neg empty, reference]
    exact told

theorem path_dimensionTags [Gzip] (w : Window) : ∀ t ∈ w.dimensionTags, t.path = dimensionPath := by
  intro t inside
  rw [dimensionTags] at inside
  split at inside
  · cases inside
  · rw [List.mem_singleton.mp inside]

def worksheetAttributes : List (Name × List Char) :=
  [("xmlns".toList, (escape "http://schemas.openxmlformats.org/spreadsheetml/2006/main").toList),
    ("xmlns:r".toList, (escape "http://schemas.openxmlformats.org/officeDocument/2006/relationships").toList)]

/-- A worksheet is a document in which, behind tags of other kinds, there are those of its rows. -/
theorem tags?_worksheet [Gzip] (w : Window) (rows : List Row) :
    ∃ head, tags? (render w.headTokens ++ (Row.textOf rows ++ "</sheetData></worksheet>")) =
        some (head ++ rows.flatMap (Row.tags sheetDataPath)) ∧ (∀ t ∈ head, t.path ≠ cellPath) ∧
      head.filter (fun t => t.path = dimensionPath) = w.dimensionTags := by
  have each : ∀ r : Row, Tells r.tokens sheetDataPath (r.tags sheetDataPath) := fun r => rowTokens_tell r
  have sheetData : Tells ([.startTag "sheetData", .close] ++ rows.flatMap Row.tokens ++ [.endTag "sheetData"])
      worksheetPath (⟨sheetDataPath, []⟩ :: rows.flatMap (Row.tags sheetDataPath)) :=
    Tells.element (fun _ _ => rfl) rfl (Tells.flatMap each rows)
  obtain ⟨columns, columned, inner⟩ := columnsTokens_tell w.widths
  have opens : TagReader.start.takeAll [.startTag "worksheet",
      .attr "xmlns" "http://schemas.openxmlformats.org/spreadsheetml/2006/main",
      .attr "xmlns:r" "http://schemas.openxmlformats.org/officeDocument/2006/relationships", .close] =
      some ⟨⟨.content, worksheetPath, [worksheetPath]⟩, [], [⟨worksheetPath, worksheetAttributes⟩]⟩ := rfl
  have document : tags? _ = some (⟨worksheetPath, worksheetAttributes⟩ :: (w.dimensionTags ++ columns ++
      ⟨sheetDataPath, []⟩ :: rows.flatMap (Row.tags sheetDataPath))) :=
    tags?_document toList_declaration opens rfl (((dimensionTokens_tell w).append columned).append sheetData)
  have tail : Row.textOf rows ++ "</sheetData></worksheet>" =
      render (rows.flatMap Row.tokens ++ [.endTag "sheetData", .endTag "worksheet"]) := by
    rw [render_append, render_rows]
    rfl
  -- What is inside of the element for columns is neither a cell nor the dimension.
  have outside {path : Path} (apart : ¬columnsPath <:+ path) : ∀ t ∈ columns, t.path ≠ path := by
    rintro t inside rfl
    exact apart (inner t inside)
  refine ⟨⟨worksheetPath, worksheetAttributes⟩ :: (w.dimensionTags ++ columns ++ [⟨sheetDataPath, []⟩]), ?_, ?_, ?_⟩
  · rw [List.cons_append, List.append_assoc, List.singleton_append, tail, ← render_append, ← document, headTokens]
    simp only [List.append_assoc, List.cons_append, List.nil_append]
  · intro t inside
    simp only [List.mem_cons, List.mem_append, List.not_mem_nil, or_false] at inside
    rcases inside with own | (inside | inside) | last
    · rw [own]; exact (show worksheetPath ≠ cellPath by decide)
    · rw [path_dimensionTags w t inside]; exact (show dimensionPath ≠ cellPath by decide)
    · exact outside (by decide) t inside
    · rw [last]; exact (show sheetDataPath ≠ cellPath by decide)
  · have dimension : w.dimensionTags.filter (fun t => t.path = dimensionPath) = w.dimensionTags :=
      List.filter_eq_self.mpr fun t inside => decide_eq_true (path_dimensionTags w t inside)
    have others : columns.filter (fun t => t.path = dimensionPath) = [] :=
      List.filter_eq_nil_iff.mpr fun t inside => by simpa using outside (by decide) t inside
    have root : worksheetPath ≠ dimensionPath := by decide
    have data : sheetDataPath ≠ dimensionPath := by decide
    simp [dimension, others, root, data]

/-! ## What a tag says -/

/-- The tag is that of the cell at a place. -/
def IsCellAt (t : Tag) (row column : Nat) : Prop :=
  t.path = cellPath ∧ t.value? "r" = some (cellReference row column).toList

/-- The number of the format of a cell, as its tag says: that of the default one, if it says nothing. -/
def formatNumber? (t : Tag) : Option Nat :=
  match t.value? "s" with
  | some digits => Text.readDigits? digits
  | none => some 0

theorem isCellAt_tag (c : Cell) (row column : Nat) : IsCellAt (c.tag rowPath row column) row column := ⟨rfl, rfl⟩

theorem value?_format (c : Cell) (row column : Nat) : (c.tag rowPath row column).value? "s" =
    if c.format = 0 then none else some (toString (c.format : Int)).toList := by
  rw [Tag.value?, Cell.tag, Cell.attributes]
  by_cases plain : c.format = 0
  · rw [if_pos plain, if_pos plain]
    cases c.value <;> rfl
  · rw [if_neg plain, if_neg plain]
    rfl

theorem formatNumber?_tag (c : Cell) (row column : Nat) : formatNumber? (c.tag rowPath row column) = some c.format := by
  rw [formatNumber?, value?_format]
  by_cases plain : c.format = 0
  · rw [if_pos plain, plain]
  · rw [if_neg plain]
    exact readDigits?_toString c.format

theorem IsCellAt.unique {t : Tag} {row column row' column' : Nat} (h : IsCellAt t row column)
    (h' : IsCellAt t row' column') : row = row' ∧ column = column' :=
  cellReference_inj (String.toList_inj.mp (Option.some.inj (h.2.symm.trans h'.2)))

/-! ## Which cells there are -/

theorem path_valueTags (v : CellValue) : ∀ t ∈ v.tags cellPath, t.path ≠ cellPath := by
  intro t inside same
  have inner : t.path ∈ (v.tags cellPath).map Tag.path := List.mem_map_of_mem inside
  rw [same] at inner
  cases v with
  | empty => cases inside
  | text s =>
      exact absurd inner (show cellPath ∉ ["is".toList :: cellPath, "t".toList :: "is".toList :: cellPath] by decide)
  | _ => exact absurd inner (show cellPath ∉ ["v".toList :: cellPath] by decide)

theorem mem_cellTags {row column : Nat} {c : Cell} {t : Tag} :
    t ∈ c.tags rowPath row column ∧ t.path = cellPath ↔ c.isOmitted = false ∧ t = c.tag rowPath row column := by
  rw [Cell.tags]
  cases c.isOmitted with
  | true => simp
  | false =>
      rw [if_neg Bool.false_ne_true, List.mem_cons]
      constructor
      · rintro ⟨own | inner, same⟩
        · exact ⟨rfl, own⟩
        · exact absurd same (path_valueTags c.value t inner)
      · rintro ⟨-, rfl⟩
        exact ⟨.inl rfl, rfl⟩

/-- The tags of cells are those of the cells that are not omitted. -/
theorem mem_rowsTags {rows : List Row} {t : Tag} :
    t ∈ rows.flatMap (Row.tags sheetDataPath) ∧ t.path = cellPath ↔
      ∃ r ∈ rows, ∃ (column : Nat) (c : Cell), r.cells[column]? = some c ∧ c.isOmitted = false ∧
        t = c.tag rowPath r.index column := by
  constructor
  · rintro ⟨inside, same⟩
    obtain ⟨r, held, there⟩ := List.mem_flatMap.mp inside
    cases List.mem_cons.mp there with
    | inl own =>
        rw [own] at same
        exact absurd same (show rowPath ≠ cellPath by decide)
    | inr inner =>
        obtain ⟨⟨c, column⟩, listed, tagged⟩ := List.mem_flatMap.mp inner
        obtain ⟨written, eq⟩ := mem_cellTags.mp ⟨tagged, same⟩
        exact ⟨r, held, column, c, List.mem_zipIdx_iff_getElem?.mp listed, written, eq⟩
  · rintro ⟨r, held, column, c, listed, written, eq⟩
    obtain ⟨tagged, same⟩ := mem_cellTags.mpr ⟨written, eq⟩
    refine ⟨List.mem_flatMap.mpr ⟨r, held, List.mem_cons_of_mem _ (List.mem_flatMap.mpr ⟨(c, column), ?_, tagged⟩)⟩,
      same⟩
    exact List.mem_zipIdx_iff_getElem?.mpr listed

end Window

end SheetExport
