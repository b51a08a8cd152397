import SheetExport.Proofs.Export.Success
import SheetExport.Proofs.Sheet.CellTags
import SheetExport.Proofs.Workbook.NumberFormats

/-! # The styles of cells

The tag of a cell has the number of its format, and the format is in another part of the workbook. `Resolves` says
that the two parts fit together: each number leads to a format, and the format is the one that the cell should have.
It does so for every workbook that an export writes, with number formats as they are written; with number formats as
they are read it does exactly where none of them is cut.
-/

namespace SheetExport

open Xml StyleSheet Window

variable {α σ ω : Type}

/-- The tag of a cell leads to a format as a style asks for, among the tags of a style sheet. -/
def HasStyle (declared : Nat → String → Prop) (styles : List Tag) (style : Style) (t : Tag) : Prop :=
  ∃ number id, formatNumber? t = some number ∧ seenFormat? styles number = some (.ofStyle style id) ∧
    IsIdOf declared id style.pattern

namespace Look

/-- The tag of a header: with the style of headers if they have one, and otherwise with the default format. -/
def IsHeaderTag (look : Look) (declared : Nat → String → Prop) (styles : List Tag) (column : Nat) (t : Tag) : Prop :=
  IsCellAt t 0 column ∧
    if look.styleHeader then HasStyle declared styles Run.headerStyle t else formatNumber? t = some 0

/-- The tag of a value in a column, with the style of its number format and its border. -/
def IsValueTag (look : Look) (schema : Schema α) (declared : Nat → String → Prop) (styles : List Tag)
    (row column : Nat) (v : CellValue) (t : Tag) : Prop :=
  IsCellAt t row column ∧ HasStyle declared styles (look.styleAt schema.patterns column v) t

/-- A header that has the style of headers shares its format with no value. -/
theorem header_ne_value {look : Look} {schema : Schema α} {declared : Nat → String → Prop} {styles : List Tag}
    {row column column' : Nat} {v : CellValue} {t u : Tag} (styled : look.styleHeader = true)
    (header : look.IsHeaderTag declared styles column t)
    (value : look.IsValueTag schema declared styles row column' v u) : formatNumber? t ≠ formatNumber? u := by
  intro same
  obtain ⟨-, shown⟩ := header
  rw [if_pos styled] at shown
  obtain ⟨number, id, tagged, seen, -⟩ := shown
  obtain ⟨-, number', id', tagged', seen', -⟩ := value
  obtain rfl : number = number' := Option.some.inj (tagged.symm.trans (same.trans tagged'))
  have bold := congrArg SeenFormat.bold (Option.some.inj (seen.symm.trans seen'))
  cases bold

/-- The tags of a worksheet and those of a style sheet fit together. -/
structure Resolves (look : Look) (schema : Schema α) (table : List (List CellValue)) (declared : Nat → String → Prop)
    (sheet styles : List Tag) : Prop where
  /-- Each number is below the number of formats. -/
  below : ∃ count, formatCount? styles = some count ∧
    ∀ t ∈ sheet, t.path = cellPath → ∃ number, formatNumber? t = some number ∧ number < count
  /-- The default format is that of the style without anything. -/
  plain : seenFormat? styles 0 = some (.ofStyle .plain 0)
  /-- Each cell is that of a header or of a value. -/
  cells : ∀ t ∈ sheet, t.path = cellPath →
    (∃ column, column < schema.headers.length ∧ look.IsHeaderTag declared styles column t) ∨
      ∃ i values column v, table[i]? = some values ∧ values[column]? = some v ∧
        look.IsValueTag schema declared styles (i + 1) column v t
  headers : ∀ column, column < schema.headers.length → ∃ t ∈ sheet, look.IsHeaderTag declared styles column t
  /-- Only an empty value without a style has no cell. -/
  values : ∀ i values column v, table[i]? = some values → values[column]? = some v →
    v ≠ .empty ∨ look.styleAt schema.patterns column v ≠ .plain →
      ∃ t ∈ sheet, look.IsValueTag schema declared styles (i + 1) column v t
  /-- No value has the format of styled headers. -/
  apart : look.styleHeader = true → ∀ t ∈ sheet, ∀ u ∈ sheet, ∀ column i column', IsCellAt t 0 column →
    IsCellAt u (i + 1) column' → formatNumber? t ≠ formatNumber? u

/-- The number format is one that is not built in and that a value is to be shown in. -/
def Uses (look : Look) (schema : Schema α) (table : List (List CellValue)) (p : String) : Prop :=
  builtInFormats.lookup p = none ∧
    ∃ values ∈ table, ∃ (column : Nat) (v : CellValue), values[column]? = some v ∧
      (look.styleAt schema.patterns column v).pattern = some p

section Written

variable {look : Look} {schema : Schema α} {table : List (List CellValue)} {sheet styles : List Tag}

theorem sound_styleSheet (look : Look) (schema : Schema α) (table : List (List CellValue)) :
    (look.styleSheet schema table).Sound := sound_initial.registerAll _

/-- The style of a value is known. -/
theorem exists_number?_styleAt {i column : Nat} {values : List CellValue} {v : CellValue}
    (row : table[i]? = some values) (cell : values[column]? = some v) :
    ∃ n, (look.styleSheet schema table).number? (look.styleAt schema.patterns column v) = some n := by
  refine exists_number?_registerAll (List.mem_append_right _ (List.mem_flatMap.mpr ⟨values, List.mem_of_getElem? row, ?_⟩))
  obtain ⟨inside, rfl⟩ := List.getElem?_eq_some_iff.mp cell
  exact List.mem_mapIdx.mpr ⟨column, inside, rfl⟩

theorem exists_number?_header (styled : look.styleHeader = true) :
    ∃ n, (look.styleSheet schema table).number? Run.headerStyle = some n := by
  refine exists_number?_registerAll (List.mem_append_left _ ?_)
  rw [headerStyles, if_pos styled]
  exact List.mem_singleton_self _

/-- The custom number formats of a style sheet are those that its values use. -/
theorem uses_of_mem_patterns {p : String} (known : p ∈ (look.styleSheet schema table).patterns) :
    look.Uses schema table p := by
  have sound := sound_styleSheet look schema table
  refine ⟨sound.custom p known, ?_⟩
  obtain ⟨e, inside, asks⟩ := sound.used p known
  rcases styles_registerAll _ e inside with first | asked
  · rw [List.mem_singleton.mp first] at asks
    cases asks
  · cases List.mem_append.mp asked with
    | inl header =>
        rw [headerStyles] at header
        split at header
        · rw [List.mem_singleton.mp header] at asks
          cases asks
        · cases header
    | inr value =>
        obtain ⟨values, row, there⟩ := List.mem_flatMap.mp value
        obtain ⟨column, lt, same⟩ := List.mem_mapIdx.mp there
        exact ⟨values, row, column, values[column], List.getElem?_eq_getElem lt, by rw [same]; exact asks⟩

/-! ## Cells -/

theorem mem_rows {styles : StyleSheet} {r : Row} : r ∈ look.rows schema styles table ↔
    r = look.headerRow schema styles ∨
      ∃ i values, table[i]? = some values ∧ r = ⟨i + 1, look.cells styles schema.patterns values⟩ := by
  rw [rows, List.mem_cons, List.mem_mapIdx]
  refine or_congr_right ⟨?_, ?_⟩
  · rintro ⟨i, lt, rfl⟩
    exact ⟨i, table[i], List.getElem?_eq_getElem lt, rfl⟩
  · rintro ⟨i, values, row, rfl⟩
    obtain ⟨lt, rfl⟩ := List.getElem?_eq_some_iff.mp row
    exact ⟨i, lt, rfl⟩

def headerCell (look : Look) (styles : StyleSheet) (h : String) : Cell :=
  ⟨.text (look.text h), if look.styleHeader then styles.numberOf Run.headerStyle else 0⟩

def valueCell (look : Look) (styles : StyleSheet) (patterns : List (Option String)) (column : Nat) (v : CellValue) :
    Cell :=
  ⟨look.value v, styles.numberOf (look.styleAt patterns column v)⟩

/-- The tags of the cells of a sheet. -/
theorem mem_tags_iff {styles : StyleSheet} {t : Tag} :
    t ∈ (look.rows schema styles table).flatMap (Row.tags sheetDataPath) ∧ t.path = cellPath ↔
      (∃ column h, schema.headers[column]? = some h ∧ t = (look.headerCell styles h).tag rowPath 0 column) ∨
      ∃ i values column v, table[i]? = some values ∧ values[column]? = some v ∧
        (look.valueCell styles schema.patterns column v).isOmitted = false ∧
        t = (look.valueCell styles schema.patterns column v).tag rowPath (i + 1) column := by
  rw [mem_rowsTags]
  constructor
  · rintro ⟨r, inside, column, c, cell, kept, rfl⟩
    rcases mem_rows.mp inside with rfl | ⟨i, values, row, rfl⟩
    · rw [headerRow, List.getElem?_map] at cell
      obtain ⟨h, listed, rfl⟩ := Option.map_eq_some_iff.mp cell
      exact .inl ⟨column, h, listed, rfl⟩
    · rw [cells, List.getElem?_mapIdx] at cell
      obtain ⟨v, listed, rfl⟩ := Option.map_eq_some_iff.mp cell
      exact .inr ⟨i, values, column, v, row, listed, kept, rfl⟩
  · rintro (⟨column, h, listed, rfl⟩ | ⟨i, values, column, v, row, listed, kept, rfl⟩)
    · refine ⟨_, mem_rows.mpr (.inl rfl), column, look.headerCell styles h, ?_, rfl, rfl⟩
      rw [headerRow, List.getElem?_map, listed]
      rfl
    · refine ⟨_, mem_rows.mpr (.inr ⟨i, values, row, rfl⟩), column, _, ?_, kept, rfl⟩
      rw [cells, List.getElem?_mapIdx, listed]
      rfl

/-- A cell with the number of a style that is known. -/
theorem hasStyle_numberOf {s : StyleSheet} {declared : Nat → String → Prop} {style : Style} {t : Tag}
    (sound : s.Sound) (read : s.IsRead styles)
    (enough : ∀ id pattern, Denotes s.patterns id pattern → IsIdOf declared id pattern)
    (known : ∃ n, s.number? style = some n) (number : formatNumber? t = some (s.numberOf style)) :
    HasStyle declared styles style t ∧ s.numberOf style < s.size := by
  obtain ⟨id, entry, denotes⟩ := sound.entry_numberOf known
  exact ⟨⟨_, id, number, read.seenFormat? entry, enough id _ denotes⟩, (List.getElem?_eq_some_iff.mp entry).1⟩

theorem isOmitted_valueCell {i column : Nat} {values : List CellValue} {v : CellValue}
    (row : table[i]? = some values) (cell : values[column]? = some v)
    (shown : v ≠ .empty ∨ look.styleAt schema.patterns column v ≠ .plain) :
    (look.valueCell (look.styleSheet schema table) schema.patterns column v).isOmitted = false := by
  have known : ∃ n, (look.styleSheet schema table).number? (look.styleAt schema.patterns column v) = some n :=
    exists_number?_styleAt row cell
  rw [Cell.isOmitted, Bool.and_eq_false_iff]
  rcases shown with filled | styled
  · left
    cases v <;> first | rfl | exact absurd rfl filled
  · right
    exact beq_eq_false_iff_ne.mpr fun zero => styled ((sound_styleSheet look schema table).eq_plain known zero)

/-! ## The two parts -/

/-- The tags of the worksheet and of the style sheet for a table of values. -/
structure Tagged (look : Look) (schema : Schema α) (table : List (List CellValue)) (sheet styles : List Tag) : Prop where
  cells : ∀ t, t ∈ sheet ∧ t.path = cellPath ↔
    t ∈ (look.rows schema (look.styleSheet schema table) table).flatMap (Row.tags sheetDataPath) ∧ t.path = cellPath
  read : (look.styleSheet schema table).IsRead styles

variable {declared : Nat → String → Prop}

theorem Tagged.mem_iff (h : Tagged look schema table sheet styles) {t : Tag} : t ∈ sheet ∧ t.path = cellPath ↔
    (∃ column header, schema.headers[column]? = some header ∧
      t = (look.headerCell (look.styleSheet schema table) header).tag rowPath 0 column) ∨
    ∃ i values column v, table[i]? = some values ∧ values[column]? = some v ∧
      (look.valueCell (look.styleSheet schema table) schema.patterns column v).isOmitted = false ∧
      t = (look.valueCell (look.styleSheet schema table) schema.patterns column v).tag rowPath (i + 1) column :=
  (h.cells t).trans mem_tags_iff

/-- What stands in the first row is a header. -/
theorem Tagged.header_of_isCellAt (h : Tagged look schema table sheet styles) {t : Tag} (inside : t ∈ sheet)
    {column : Nat} (here : IsCellAt t 0 column) :
    ∃ header, t = (look.headerCell (look.styleSheet schema table) header).tag rowPath 0 column := by
  rcases h.mem_iff.mp ⟨inside, here.1⟩ with ⟨k, header, _, rfl⟩ | ⟨j, values, k, v, _, _, _, rfl⟩
  · obtain ⟨-, rfl⟩ := here.unique (isCellAt_tag _ _ _)
    exact ⟨header, rfl⟩
  · exact absurd (here.unique (isCellAt_tag _ _ _)).1.symm (Nat.succ_ne_zero j)

/-- What stands in a later row is a value of that row. -/
theorem Tagged.value_of_isCellAt (h : Tagged look schema table sheet styles) {t : Tag} (inside : t ∈ sheet)
    {i column : Nat} (here : IsCellAt t (i + 1) column) :
    ∃ values v, table[i]? = some values ∧ values[column]? = some v ∧
      t = (look.valueCell (look.styleSheet schema table) schema.patterns column v).tag rowPath (i + 1) column := by
  rcases h.mem_iff.mp ⟨inside, here.1⟩ with ⟨k, header, _, rfl⟩ | ⟨j, values, k, v, row, cell, _, rfl⟩
  · exact absurd (here.unique (isCellAt_tag _ _ _)).1 (Nat.succ_ne_zero i)
  · obtain ⟨rows, rfl⟩ := here.unique (isCellAt_tag _ _ _)
    obtain rfl : i = j := Nat.succ.inj rows
    exact ⟨values, v, row, cell, rfl⟩

theorem Tagged.isHeaderTag (h : Tagged look schema table sheet styles)
    (enough : ∀ id pattern, Denotes (look.styleSheet schema table).patterns id pattern → IsIdOf declared id pattern)
    (column : Nat) (header : String) :
    look.IsHeaderTag declared styles column
      ((look.headerCell (look.styleSheet schema table) header).tag rowPath 0 column) ∧
    (look.headerCell (look.styleSheet schema table) header).format < (look.styleSheet schema table).size := by
  have sound := sound_styleSheet look schema table
  rw [IsHeaderTag]
  have number := formatNumber?_tag (look.headerCell (look.styleSheet schema table) header) 0 column
  cases styled : look.styleHeader with
  | false =>
      have plain : (look.headerCell (look.styleSheet schema table) header).format = 0 := by simp [headerCell, styled]
      rw [plain] at number ⊢
      exact ⟨⟨isCellAt_tag _ _ _, by simpa using number⟩, (List.getElem?_eq_some_iff.mp sound.plain).1⟩
  | true =>
      have bold : (look.headerCell (look.styleSheet schema table) header).format =
          (look.styleSheet schema table).numberOf Run.headerStyle := by simp [headerCell, styled]
      rw [bold] at number ⊢
      obtain ⟨shown, below⟩ := hasStyle_numberOf sound h.read enough (exists_number?_header styled) number
      exact ⟨⟨isCellAt_tag _ _ _, by simpa using shown⟩, below⟩

theorem Tagged.isValueTag (h : Tagged look schema table sheet styles)
    (enough : ∀ id pattern, Denotes (look.styleSheet schema table).patterns id pattern → IsIdOf declared id pattern)
    {i column : Nat} {values : List CellValue} {v : CellValue} (row : table[i]? = some values)
    (cell : values[column]? = some v) :
    look.IsValueTag schema declared styles (i + 1) column v
      ((look.valueCell (look.styleSheet schema table) schema.patterns column v).tag rowPath (i + 1) column) ∧
    (look.valueCell (look.styleSheet schema table) schema.patterns column v).format <
      (look.styleSheet schema table).size := by
  have number := formatNumber?_tag (look.valueCell (look.styleSheet schema table) schema.patterns column v) (i + 1) column
  obtain ⟨shown, below⟩ := hasStyle_numberOf (sound_styleSheet look schema table) h.read enough
    (exists_number?_styleAt row cell) number
  exact ⟨⟨isCellAt_tag _ _ _, shown⟩, below⟩

/-- The parts fit together as far as what an id stands for in the style sheet is enough. -/
theorem Tagged.resolves (h : Tagged look schema table sheet styles)
    (enough : ∀ id pattern, Denotes (look.styleSheet schema table).patterns id pattern → IsIdOf declared id pattern) :
    look.Resolves schema table declared sheet styles where
  below := by
    refine ⟨_, h.read.count, fun t inside same => ?_⟩
    rcases h.mem_iff.mp ⟨inside, same⟩ with ⟨column, header, _, rfl⟩ | ⟨i, values, column, v, row, cell, _, rfl⟩
    · exact ⟨_, formatNumber?_tag _ _ _, (h.isHeaderTag enough column header).2⟩
    · exact ⟨_, formatNumber?_tag _ _ _, (h.isValueTag enough row cell).2⟩
  plain := h.read.seenFormat? (sound_styleSheet look schema table).plain
  cells t inside same := by
    rcases h.mem_iff.mp ⟨inside, same⟩ with ⟨column, header, listed, rfl⟩ | ⟨i, values, column, v, row, cell, _, rfl⟩
    · exact .inl ⟨column, (List.getElem?_eq_some_iff.mp listed).1, (h.isHeaderTag enough column header).1⟩
    · exact .inr ⟨i, values, column, v, row, cell, (h.isValueTag enough row cell).1⟩
  headers column lt :=
    ⟨_, (h.mem_iff.mpr (.inl ⟨column, _, List.getElem?_eq_getElem lt, rfl⟩)).1, (h.isHeaderTag enough column _).1⟩
  values i values column v row cell shown := by
    have kept := isOmitted_valueCell row cell shown
    exact ⟨_, (h.mem_iff.mpr (.inr ⟨i, values, column, v, row, cell, kept, rfl⟩)).1, (h.isValueTag enough row cell).1⟩
  apart styled t header u value column i column' first later := by
    obtain ⟨name, rfl⟩ := h.header_of_isCellAt header first
    obtain ⟨values, v, row, cell, rfl⟩ := h.value_of_isCellAt value later
    exact header_ne_value styled (h.isHeaderTag enough column name).1 (h.isValueTag enough row cell).1

/-- The tag at the place of a value has the number of its style. -/
theorem Tagged.number_of_value (h : Tagged look schema table sheet styles) {i column : Nat} {values : List CellValue}
    {v : CellValue} (row : table[i]? = some values) (cell : values[column]? = some v) {t : Tag} (inside : t ∈ sheet)
    (here : IsCellAt t (i + 1) column) :
    formatNumber? t = some ((look.styleSheet schema table).numberOf (look.styleAt schema.patterns column v)) := by
  obtain ⟨values', v', row', cell', rfl⟩ := h.value_of_isCellAt inside here
  obtain rfl : values = values' := Option.some.inj (row.symm.trans row')
  obtain rfl : v = v' := Option.some.inj (cell.symm.trans cell')
  exact formatNumber?_tag _ _ _

/-- With number formats as they are read, the parts fit together exactly if none that a value uses is cut. -/
theorem Tagged.resolves_read_iff (h : Tagged look schema table sheet styles) :
    look.Resolves schema table (DeclaredOnce styles) sheet styles ↔ ∀ p, look.Uses schema table p → Uncut p.toList := by
  have sound := sound_styleSheet look schema table
  constructor
  · rintro resolves p ⟨unknown, values, inside, column, v, cell, asks⟩
    obtain ⟨i, row⟩ := List.mem_iff_getElem?.mp inside
    have styled : look.styleAt schema.patterns column v ≠ .plain := by
      intro plain
      rw [plain] at asks
      cases asks
    obtain ⟨t, there, here, number, id, tagged, seen, once⟩ := resolves.values i values column v row cell (.inr styled)
    have known : ∃ n, (look.styleSheet schema table).number? (look.styleAt schema.patterns column v) = some n :=
      exists_number?_styleAt row cell
    obtain ⟨id', entry, denotes⟩ := sound.entry_numberOf known
    obtain rfl := Option.some.inj (tagged.symm.trans (h.number_of_value row cell there here))
    have same := congrArg SeenFormat.numberFormat (Option.some.inj (seen.symm.trans (h.read.seenFormat? entry)))
    obtain rfl : id = id' := same
    rw [asks] at once denotes
    exact h.read.uncut_of_declaredOnce unknown denotes once
  · intro uncut
    exact h.resolves fun id pattern denotes => h.read.declaredOnce sound
      (fun p known => uncut p (uses_of_mem_patterns known)) denotes

/-- The worksheet and the style sheet for a table are documents. -/
theorem exists_tagged [Gzip] (look : Look) (schema : Schema α) (table : List (List CellValue)) (name : String)
    (widths : List Nat) :
    ∃ sheet styles,
      tags? (worksheetText name widths (look.rows schema (look.styleSheet schema table) table)) = some sheet ∧
      tags? (render (look.styleSheet schema table).tokens) = some styles ∧ Tagged look schema table sheet styles := by
  obtain ⟨head, sheet, other, -⟩ := tags?_worksheet (whole name widths _)
    (look.rows schema (look.styleSheet schema table) table)
  obtain ⟨styles, document, read⟩ := tags?_styles (look.styleSheet schema table)
  refine ⟨_, styles, sheet, document, fun t => ⟨?_, ?_⟩, read⟩
  · rintro ⟨inside, same⟩
    cases List.mem_append.mp inside with
    | inl before => exact absurd same (other t before)
    | inr rows => exact ⟨rows, same⟩
  · rintro ⟨inside, same⟩
    exact ⟨List.mem_append_right _ inside, same⟩

end Written

end Look

end SheetExport
