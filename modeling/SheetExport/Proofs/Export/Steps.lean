import SheetExport.Proofs.Export.FormatMemo
import SheetExport.Proofs.Export.Reference
import SheetExport.Proofs.Workbook.Packing

/-! # The steps of an export

What each step does to a workbook that shows the rows written so far. A row gets the numbers that its styles
have when it is written; later rows change none of them, so `Shown` says of the rows that they are right under
every style sheet that is still to come. A step that pages rows out may also fail with a fault of the disk, unless
the disk is sound.
-/

namespace SheetExport

variable {α σ ω : Type}

namespace Look

variable {look : Look} {schema : Schema α} {styles : StyleSheet} {table : List (List CellValue)}

theorem rows_last (look : Look) (schema : Schema α) (styles : StyleSheet) (table : List (List CellValue)) :
    ((look.rows schema styles table).getLast?.map fun r => r.index + 1).getD 0 = table.length + 1 := by
  rw [rows, List.getLast?_cons, List.getLast?_mapIdx]
  cases last : table.getLast? with
  | none => simp [List.getLast?_eq_none_iff.mp last, headerRow]
  | some values =>
      have : table ≠ [] := fun empty => by simp [empty] at last
      have := List.length_pos_iff.mpr this
      simp
      omega

theorem rows_fit (look : Look) (styles : StyleSheet)
    (aligned : ∀ values ∈ table, values.length = schema.headers.length) :
    ∀ r ∈ look.rows schema styles table, r.cells.length ≤ schema.resolvedWidths.length := by
  intro r inside
  have le := schema.headers_le_resolvedWidths
  cases List.mem_cons.mp inside with
  | inl header => rwa [header, length_headerRow]
  | inr below =>
      obtain ⟨i, lt, rfl⟩ := List.mem_mapIdx.mp below
      rwa [length_cells, aligned _ (List.getElem_mem lt)]

end Look

namespace Run

theorem safeValue_eq (config : Config) (v : CellValue) : safeValue config v = config.look.value v := by
  cases v <;> rfl

theorem firstNotFinite_texts (f : String → String) (format : Nat) (headers : List String) (column : Nat) :
    Window.firstNotFinite (headers.map fun h => Cell.mk (.text (f h)) format) column = none := by
  induction headers generalizing column with
  | nil => rfl
  | cons h headers ih => exact ih (column + 1)

end Run

variable [Gzip] {disk : Disk}

/-- A workbook whose sheet has the header row and a row for each of some lists of values. -/
structure Workbook.Shown (disk : Disk) (look : Look) (schema : Schema α) (table : List (List CellValue))
    (book : Workbook) : Prop where
  aligned : ∀ values ∈ table, values.length = schema.headers.length
  styles : book.styles = look.styleSheet schema table
  sheet : ∃ w rows, book.sheet = some w ∧ w.Shows disk (mendSheetName schema.sheetName) schema.resolvedWidths rows ∧
    ∀ more, rows = look.rows schema ((look.styleSheet schema table).registerAll more) table

namespace Workbook

theorem onSheet_on {β : Type} {a : Action Window β} {book : Workbook} {w v : Window} {r : Except ExportError β}
    (sheet : book.sheet = some w) (ran : a.on w = (r, v)) :
    (onSheet a).on book = (r, { book with sheet := some v }) := by
  rw [onSheet, ActionOf.on_of, sheet]
  simp only [ran]

/-- What an action on the sheet comes to. -/
theorem onSheet_comes {a : Action Window Unit} (book : Workbook) {w : Window} {P : Window → Prop} {excuse : Prop}
    (sheet : book.sheet = some w) (comes : a.ComesTo w excuse fun _ => P) :
    (onSheet a).ComesTo book excuse fun _ t => ∃ v, P v ∧ t = { book with sheet := some v } := by
  obtain ⟨_, v, ran, after⟩ | ⟨excused, fault, v, failed⟩ := comes
  · exact .of_ok (onSheet_on sheet ran) ⟨v, after, rfl⟩
  · exact .inr ⟨excused, fault, _, onSheet_on sheet failed⟩

/-- A sheet is made on a disk on which a file can be made. -/
theorem createSheet_on (book : Workbook) (none_yet : book.sheet = none) (name : String) :
    (createSheet name).on book = match book.spillDisk with
      | .error fault => (.error (.io fault), book)
      | .ok disk => (.ok (), { book with sheet := some (.create name book.capacity book.compressed disk) }) := by
  rw [createSheet, ActionOf.on_get_bind, none_yet]
  cases book.spillDisk <;> rfl

end Workbook

namespace Run

theorem dataCells_on (config : Config) (patterns : List (Option String)) (values : List CellValue) {book : Workbook}
    {memo : FormatMemo} (agrees : memo.Agrees config.borderData book.styles) :
    ∃ cells memo', (dataCells config patterns values).on (book, memo) =
        (.ok cells, { book with styles := book.styles.registerAll (config.look.rowStyles patterns values) }, memo') ∧
      memo'.Agrees config.borderData (book.styles.registerAll (config.look.rowStyles patterns values)) ∧
      ∀ more, cells = config.look.cells
        (book.styles.registerAll (config.look.rowStyles patterns values ++ more)) patterns values := by
  induction values generalizing patterns book memo with
  | nil => exact ⟨[], memo, rfl, agrees, fun _ => rfl⟩
  | cons v values ih =>
      have style : (⟨patternOf patterns.head?.join v, false, config.borderData⟩ : Style) =
          config.look.styleAt patterns 0 v := by
        rw [Look.styleAt, ← List.head?_eq_getElem?]
        cases patterns.head?.join <;> rfl
      obtain ⟨memo₁, numbered, agrees⟩ := agrees.numberFor_on (patternOf patterns.head?.join v)
      rw [style] at numbered agrees
      let styled : Workbook := { book with styles := (book.styles.register (config.look.styleAt patterns 0 v)).2 }
      obtain ⟨cells, memo', ran, agrees, eq⟩ := ih patterns.tail (show memo₁.Agrees _ styled.styles from agrees)
      refine ⟨⟨safeValue config v, (book.styles.register (config.look.styleAt patterns 0 v)).1⟩ :: cells, memo', ?_,
        by rwa [Look.rowStyles_cons], fun more => ?_⟩
      · simp only [dataCells]
        rw [ActionOf.on_bind_ok numbered, ActionOf.on_bind_ok ran, Look.rowStyles_cons]
        rfl
      · rw [Look.cells_cons, Look.rowStyles_cons, List.cons_append, StyleSheet.numberOf_registerAll, safeValue_eq]
        exact congrArg _ (eq more)

/-! ## The workbook -/

def headerFormat (config : Config) : Action Workbook Nat :=
  if config.styleHeader then Workbook.register headerStyle else pure 0

def placeHeader (config : Config) (schema : Schema α) (format : Nat) : Action Workbook Unit := do
  Workbook.createSheet (mendSheetName schema.sheetName)
  Workbook.onSheet do
    modify fun w => { w with widths := schema.resolvedWidths }
    Window.append 0 (schema.headers.map fun h => ⟨.text (safeText config h), format⟩)

theorem writeHeader_eq (config : Config) (schema : Schema α) :
    writeHeader config schema = headerFormat config >>= placeHeader config schema := by
  rw [writeHeader, headerFormat]
  cases config.styleHeader <;> rfl

theorem headerFormat_on (config : Config) (book : Workbook) :
    ∃ format, (headerFormat config).on book =
        (.ok format, { book with styles := book.styles.registerAll config.look.headerStyles }) ∧
      ∀ more, format = if config.look.styleHeader then
        (book.styles.registerAll (config.look.headerStyles ++ more)).numberOf headerStyle else 0 := by
  rw [headerFormat]
  cases styled : config.styleHeader with
  | false =>
      have plain : config.look.headerStyles = [] := by simp [Look.headerStyles, Config.look, styled]
      exact ⟨0, by rw [plain]; rfl, fun _ => by simp [Config.look, styled]⟩
  | true =>
      have bold : config.look.headerStyles = [headerStyle] := by
        simp [Look.headerStyles, Config.look, styled, headerStyle]
      refine ⟨(book.styles.register headerStyle).1, by rw [bold]; rfl, fun more => ?_⟩
      rw [bold, if_pos (by simp [Config.look, styled]), List.singleton_append, StyleSheet.numberOf_registerAll]

/-- The sheet as it stands before its header row. -/
def bareSheet (schema : Schema α) (capacity : Nat) (compressed : Bool) (disk : Disk) : Window :=
  { Window.create (mendSheetName schema.sheetName) capacity compressed disk with widths := schema.resolvedWidths }

theorem placeHeader_eq (config : Config) (schema : Schema α) (format : Nat) (book : Workbook)
    (none_yet : book.sheet = none) (there : book.spillDisk = .ok disk) :
    (placeHeader config schema format).on book =
      (Workbook.onSheet (Window.append 0 (schema.headers.map fun h => ⟨.text (safeText config h), format⟩))).on
        { book with sheet := some (bareSheet schema book.capacity book.compressed disk) } := by
  obtain ⟨sheet, styles, capacity, compressed, spillDisk⟩ := book
  obtain rfl : spillDisk = .ok disk := there
  exact ActionOf.on_bind_ok (Workbook.createSheet_on _ none_yet (mendSheetName schema.sheetName)) _

theorem placeHeader_comes [LawfulGzip] (config : Config) (schema : Schema α) (fits : schema.headers.length ≤ maxColumns)
    (format : Nat) (book : Workbook) (none_yet : book.sheet = none) (there : book.spillDisk = .ok disk) :
    (placeHeader config schema format).ComesTo book (disk ≠ .sound) fun _ t => ∃ w, w.Shows disk
      (mendSheetName schema.sheetName) schema.resolvedWidths
        [⟨0, schema.headers.map fun h => ⟨.text (safeText config h), format⟩⟩] ∧ t = { book with sheet := some w } := by
  let bare := bareSheet schema book.capacity book.compressed disk
  have shows : bare.Shows disk (mendSheetName schema.sheetName) schema.resolvedWidths [] := by
    obtain ⟨name, _, count, kept⟩ :=
      Window.shows_create (mendSheetName schema.sheetName) book.capacity book.compressed disk
    exact ⟨name, rfl, count, kept⟩
  have accepted : bare.refusal? 0 (schema.headers.map fun h => ⟨.text (safeText config h), format⟩) = none := by
    rw [Window.refusal?_eq (by decide) (show bare.rowCount ≤ 0 from Nat.le_refl 0) (by simpa using fits),
      firstNotFinite_texts]
    rfl
  rw [ActionOf.ComesTo, placeHeader_eq config schema format book none_yet there]
  exact Workbook.onSheet_comes { book with sheet := some bare } rfl (Window.append_shows accepted shows)

theorem writeHeader_comes [LawfulGzip] (config : Config) (schema : Schema α) (fits : schema.headers.length ≤ maxColumns)
    (capacity : Nat) (compressed : Bool) (disk : Disk) :
    (writeHeader config schema).ComesTo (.create capacity compressed (.ok disk)) (disk ≠ .sound)
      fun _ book => book.Shown disk config.look schema [] := by
  let bare : Workbook := .create capacity compressed (.ok disk)
  obtain ⟨format, formatted, number⟩ := headerFormat_on config bare
  rw [writeHeader_eq]
  refine .after formatted ((placeHeader_comes config schema fits format
    { bare with styles := bare.styles.registerAll config.look.headerStyles } rfl rfl).imp id ?_)
  rintro _ _ ⟨w, shows, rfl⟩
  refine ⟨by simp, by simp [Look.styleSheet, bare, Workbook.create], w, _, rfl, shows, fun more => ?_⟩
  rw [Look.rows, Look.headerRow, List.mapIdx_nil, Look.styleSheet, List.flatMap_nil, List.append_nil,
    ← StyleSheet.registerAll_append, number more]
  rfl

def placeRow (config : Config) (schema : Schema α) (index : Nat) (values : List CellValue) :
    Action (Workbook × FormatMemo) Unit := do
  let cells ← dataCells config schema.patterns values
  (Workbook.onSheet (Window.append index cells)).first

theorem placeRow_on [LawfulGzip] (config : Config) (schema : Schema α) (fits : schema.headers.length ≤ maxColumns)
    {table : List (List CellValue)} {book : Workbook} {memo : FormatMemo}
    (shown : book.Shown disk config.look schema table) (agrees : memo.Agrees config.borderData book.styles)
    (below : table.length + 1 < maxRows) {values : List CellValue}
    (aligned : values.length = schema.headers.length) :
    (firstNotFinite values = none →
        (placeRow config schema (table.length + 1) values).ComesTo (book, memo) (disk ≠ .sound) fun _ t =>
          t.1.Shown disk config.look schema (table ++ [values]) ∧ t.2.Agrees config.borderData t.1.styles) ∧
      ∀ column x, firstNotFinite values = some (column, x) →
        ∃ s, (placeRow config schema (table.length + 1) values).on (book, memo) =
          (.error (SheetFault.notFinite (table.length + 1) column x).toError, s) := by
  obtain ⟨rowsAligned, styles, w, rows, sheet, shows, rowsEq⟩ := shown
  obtain ⟨cells, memo', made, agrees, cellsEq⟩ := dataCells_on config schema.patterns values agrees
  have made' := cellsEq []
  let styled : Workbook := { book with styles := book.styles.registerAll (config.look.rowStyles schema.patterns values) }
  have sheet : styled.sheet = some w := sheet
  have refusal : w.refusal? (table.length + 1) cells =
      (firstNotFinite values).map fun place => .notFinite (table.length + 1) place.1 place.2 := by
    rw [Window.refusal?_eq below (Nat.le_of_eq (by rw [shows.rowCount, rowsEq [], Look.rows_last])) (by
      rw [made', Look.length_cells, aligned]; exact fits), made', Look.firstNotFinite_cells]
  constructor
  · intro finite
    rw [finite] at refusal
    refine .after made ((Workbook.onSheet_comes _ sheet (Window.append_shows refusal shows)).first.imp id ?_)
    rintro _ ⟨_, _⟩ ⟨⟨v, shows, rfl⟩, rfl⟩
    refine ⟨⟨?_, ?_, v, _, rfl, shows, fun more => ?_⟩, agrees⟩
    · intro vs inside
      cases List.mem_append.mp inside with
      | inl old => exact rowsAligned vs old
      | inr new => rwa [List.mem_singleton.mp new]
    · rw [Look.styleSheet_append, ← styles]
    · rw [Look.rows_append, Look.styleSheet_append, ← StyleSheet.registerAll_append, ← rowsEq, cellsEq more, styles]
  · intro column x bad
    rw [bad] at refusal
    exact ⟨_, (ActionOf.on_bind_ok made _).trans
      (ActionOf.on_first_of (Workbook.onSheet_on sheet (Window.append_refused refusal)) memo')⟩

/-! ## The run -/

theorem onWorkbook_on {β : Type} {a : Action Workbook β} {r : Run σ ω} {book : Workbook} {res : Except ExportError β}
    (ran : a.on r.workbook = (res, book)) :
    (onWorkbook a : RunStep σ ω β).on r = (res.mapError Halt.error, { r with workbook := book }) := by
  rw [onWorkbook, ActionOf.on_within, ActionOf.on_failingAs, ran]

theorem onFormatted_on {β : Type} {a : Action (Workbook × FormatMemo) β} {r : Run σ ω} {book : Workbook}
    {memo : FormatMemo} {res : Except ExportError β} (ran : a.on (r.workbook, r.formats) = (res, book, memo)) :
    (onFormatted a : RunStep σ ω β).on r =
      (res.mapError Halt.error, { r with workbook := book, formats := memo }) := by
  rw [onFormatted, ActionOf.on_within, ActionOf.on_failingAs, ran]

/-- An entity becomes a row, or ends the export with what is wrong with it, or with a fault of the disk. -/
theorem writeEntity_on [LawfulGzip] (config : Config) (schema : Schema α) (fits : schema.headers.length ≤ maxColumns)
    {table : List (List CellValue)} {r : Run σ ω} (shown : r.workbook.Shown disk config.look schema table)
    (agrees : r.formats.Agrees config.borderData r.workbook.styles)
    (rows : r.rows = table.length) (below : r.rows + 1 < maxRows) (a : α) :
    match schema.valuesAt (r.rows + 1) a with
    | .ok values => (∃ book memo, (writeEntity config schema a).on r =
          (.ok (), { r with workbook := book, formats := memo, rows := r.rows + 1 }) ∧
          book.Shown disk config.look schema (table ++ [values]) ∧ memo.Agrees config.borderData book.styles) ∨
        disk ≠ .sound ∧ ∃ fault book memo, (writeEntity config schema a).on r =
          (.error (.error (.io fault)), { r with workbook := book, formats := memo })
    | .error halt => ∃ book memo,
        (writeEntity config schema a).on r = (.error halt, { r with workbook := book, formats := memo }) := by
  rw [writeEntity, ActionOf.on_get_bind, Schema.valuesAt]
  cases row : schema.row a with
  | error b => exact ⟨r.workbook, r.formats, rfl⟩
  | ok values =>
      by_cases aligned : values.length = schema.headers.length
      · obtain ⟨placed, refused⟩ := placeRow_on config schema fits shown agrees (rows ▸ below) aligned
        rw [placeRow, ← rows] at placed refused
        simp only [aligned, if_true]
        cases bad : firstNotFinite values with
        | none =>
            obtain ⟨_, ⟨book, memo⟩, ran, shown, agrees⟩ | ⟨unsound, fault, ⟨book, memo⟩, failed⟩ := placed bad
            · refine .inl ⟨book, memo, ?_, shown, agrees⟩
              simp [ActionOf.on_bind_ok (onFormatted_on ran)]
            · refine .inr ⟨unsound, fault, book, memo, ?_⟩
              simp [ActionOf.on_bind_error (onFormatted_on failed)]
        | some place =>
            obtain ⟨column, x⟩ := place
            obtain ⟨⟨book, memo⟩, ran⟩ := refused column x bad
            refine ⟨book, memo, ?_⟩
            simp [ActionOf.on_bind_error (onFormatted_on ran), SheetFault.toError]
      · simp only [aligned, if_false]
        exact ⟨r.workbook, r.formats, by simp [aligned]⟩

end Run

end SheetExport
