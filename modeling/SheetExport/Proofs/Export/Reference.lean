import SheetExport.Export.Run
import SheetExport.Proofs.Sheet.Contents
import SheetExport.Proofs.Workbook.Numbering

/-! # What an export should write

The rows of a sheet as a map over the values of its entities, without windows, batches and spills. Of a
configuration only its `Look` plays a part in them.
-/

namespace SheetExport

/-- What of a configuration is seen in a sheet. -/
structure Look where
  styleHeader : Bool
  borderData : Bool
  escapeFormulas : Bool

def Config.look (config : Config) : Look := ⟨config.styleHeader, config.borderData, config.escapeFormulas⟩

namespace Look

variable {α : Type}

def text (look : Look) (s : String) : String := if look.escapeFormulas then disarmFormula s else s

def value (look : Look) : CellValue → CellValue
  | .text s => .text (look.text s)
  | v => v

/-- The style of a value in a column: its number format is that of the column, or else that of its kind. -/
def styleAt (look : Look) (patterns : List (Option String)) (column : Nat) (v : CellValue) : Style :=
  ⟨(patterns[column]?).join.or v.defaultPattern, false, look.borderData⟩

def headerStyles (look : Look) : List Style := if look.styleHeader then [⟨none, true, true⟩] else []

def rowStyles (look : Look) (patterns : List (Option String)) (values : List CellValue) : List Style :=
  values.mapIdx (look.styleAt patterns)

/-- The styles of a sheet, in the order in which they are asked for. -/
def styleSheet (look : Look) (schema : Schema α) (table : List (List CellValue)) : StyleSheet :=
  StyleSheet.initial.registerAll (look.headerStyles ++ table.flatMap (look.rowStyles schema.patterns))

def headerRow (look : Look) (schema : Schema α) (styles : StyleSheet) : Row where
  index := 0
  cells := schema.headers.map fun h =>
    ⟨.text (look.text h), if look.styleHeader then styles.numberOf ⟨none, true, true⟩ else 0⟩

def cells (look : Look) (styles : StyleSheet) (patterns : List (Option String)) (values : List CellValue) :
    List Cell :=
  values.mapIdx fun column v => ⟨look.value v, styles.numberOf (look.styleAt patterns column v)⟩

def rows (look : Look) (schema : Schema α) (styles : StyleSheet) (table : List (List CellValue)) : List Row :=
  look.headerRow schema styles :: table.mapIdx fun i values => ⟨i + 1, look.cells styles schema.patterns values⟩

end Look

def notFinite? : CellValue × Nat → Option (Nat × Binary64)
  | (.float x, column) => if x.isFinite then none else some (column, x)
  | _ => none

/-- The first number among values that no cell can hold, with its column. -/
def firstNotFinite (values : List CellValue) : Option (Nat × Binary64) := values.zipIdx.findSome? notFinite?

/-- The values for the row with an index, or what is wrong with them. -/
def Schema.valuesAt {α : Type} (schema : Schema α) (index : Nat) (a : α) : Except Halt (List CellValue) :=
  match schema.row a with
  | .error b => .error (.breakdown b)
  | .ok values =>
      if values.length = schema.headers.length then
        match firstNotFinite values with
        | none => .ok values
        | some (column, x) =>
            .error (.error (.cellValue index column (x.toText ++ " cannot be stored in a cell")))
      else .error (.error (Run.misaligned schema values.length schema.headers.length index))

/-- The values for rows from an index on, or what is wrong with the first entity that is bad. -/
def Schema.tableOf {α : Type} (schema : Schema α) (first : Nat) (entities : List α) :
    Except Halt (List (List CellValue)) :=
  (entities.zipIdx first).mapM fun (a, index) => schema.valuesAt index a

/-- At most `limit` of the items of a stream, which ends where there is no item. -/
def firstItems {α : Type} (items : Nat → Option α) : Nat → List α
  | 0 => []
  | limit + 1 =>
      match items 0 with
      | none => []
      | some a => a :: firstItems (fun n => items (n + 1)) limit

/-! ## Facts about the reference -/

theorem firstItems_getElem? {α : Type} {items : Nat → Option α} {limit n : Nat} {a : α}
    (h : (firstItems items limit)[n]? = some a) : items n = some a := by
  induction limit generalizing items n with
  | zero => simp [firstItems] at h
  | succ limit ih =>
      cases first : items 0 with
      | none => simp [firstItems, first] at h
      | some b =>
          cases n with
          | zero => simpa [firstItems, first] using h
          | succ n =>
              have rest : (firstItems (fun n => items (n + 1)) limit)[n]? = some a := by
                simpa [firstItems, first] using h
              exact @ih (fun n => items (n + 1)) n rest

/-- The items end before the limit only where the stream does. -/
theorem items_firstItems_length {α : Type} {items : Nat → Option α} {limit : Nat}
    (h : (firstItems items limit).length < limit) : items (firstItems items limit).length = none := by
  induction limit generalizing items with
  | zero => simp at h
  | succ limit ih =>
      cases first : items 0 with
      | none => simp [firstItems, first]
      | some b =>
          simp only [firstItems, first, List.length_cons, Nat.add_lt_add_iff_right] at h ⊢
          exact ih h

theorem firstItems_length_le {α : Type} (items : Nat → Option α) (limit : Nat) :
    (firstItems items limit).length ≤ limit := by
  induction limit generalizing items with
  | zero => exact Nat.le_refl 0
  | succ limit ih =>
      cases first : items 0 with
      | none => simp [firstItems, first]
      | some b => simpa [firstItems, first] using ih _

theorem Schema.tableOf_cons {α : Type} (schema : Schema α) (first : Nat) (a : α) (entities : List α) :
    schema.tableOf first (a :: entities) = match schema.valuesAt first a with
      | .error halt => .error halt
      | .ok values => (schema.tableOf (first + 1) entities).map (values :: ·) := by
  rw [Schema.tableOf, List.zipIdx_cons, List.mapM_cons, Schema.tableOf]
  dsimp only
  cases schema.valuesAt first a with
  | error halt => rfl
  | ok values => cases (entities.zipIdx (first + 1)).mapM fun (a, index) => schema.valuesAt index a <;> rfl

def Schema.Accepts {α : Type} (schema : Schema α) (a : α) : Prop :=
  ∃ values, schema.row a = .ok values ∧ values.length = schema.headers.length ∧ firstNotFinite values = none

theorem Schema.Accepts.valuesAt {α : Type} {schema : Schema α} {a : α} (good : schema.Accepts a) :
    ∃ values, ∀ index, schema.valuesAt index a = .ok values := by
  obtain ⟨values, row, aligned, finite⟩ := good
  exact ⟨values, fun index => by simp only [Schema.valuesAt, row, aligned, if_true, finite]⟩

theorem Schema.tableOf_of_accepts {α : Type} {schema : Schema α} {entities : List α}
    (good : ∀ a ∈ entities, schema.Accepts a) (first : Nat) : ∃ table, schema.tableOf first entities = .ok table := by
  induction entities generalizing first with
  | nil => exact ⟨[], rfl⟩
  | cons a entities ih =>
      obtain ⟨values, here⟩ := (good a List.mem_cons_self).valuesAt
      obtain ⟨table, rest⟩ := ih (fun b inside => good b (List.mem_cons_of_mem a inside)) (first + 1)
      exact ⟨values :: table, by rw [tableOf_cons, here, rest]; rfl⟩

theorem Schema.length_of_tableOf {α : Type} {schema : Schema α} {first : Nat} {entities : List α}
    {table : List (List CellValue)} (h : schema.tableOf first entities = .ok table) :
    table.length = entities.length := by
  induction entities generalizing first table with
  | nil => cases h; rfl
  | cons a entities ih =>
      rw [Schema.tableOf_cons] at h
      cases values : schema.valuesAt first a with
      | error halt => simp [values] at h
      | ok values' =>
          cases rest : schema.tableOf (first + 1) entities with
          | error halt => simp [values, rest, Except.map] at h
          | ok more =>
              rw [values, rest] at h
              cases h
              rw [List.length_cons, List.length_cons, ih rest]

theorem Window.firstNotFinite_eq (cells : List Cell) (column : Nat) :
    Window.firstNotFinite cells column = ((cells.map Cell.value).zipIdx column).findSome? notFinite? := by
  induction cells generalizing column with
  | nil => rfl
  | cons c cells ih =>
      obtain ⟨v, format⟩ := c
      rw [List.map_cons, List.zipIdx_cons, List.findSome?_cons]
      cases v with
      | float x =>
          rw [Window.firstNotFinite, notFinite?]
          split
          · exact ih _
          · rfl
      | empty | text | int | bool | date | dateTime => exact ih _

namespace Look

variable {α : Type} {look : Look}

theorem notFinite?_value (look : Look) (v : CellValue) (column : Nat) :
    notFinite? (look.value v, column) = notFinite? (v, column) := by
  cases v <;> rfl

theorem firstNotFinite_cells (look : Look) (styles : StyleSheet) (patterns : List (Option String))
    (values : List CellValue) : Window.firstNotFinite (look.cells styles patterns values) 0 = firstNotFinite values := by
  have values : (look.cells styles patterns values).map Cell.value = values.map look.value :=
    List.ext_getElem? fun i => by simp [cells, Function.comp_def]
  rw [Window.firstNotFinite_eq, values, List.zipIdx_map, List.findSome?_map, firstNotFinite]
  congr 1
  funext x
  exact notFinite?_value look x.1 x.2

theorem styleAt_succ (look : Look) (patterns : List (Option String)) (column : Nat) (v : CellValue) :
    look.styleAt patterns (column + 1) v = look.styleAt patterns.tail column v := by
  rw [styleAt, styleAt, List.getElem?_tail]

theorem rowStyles_cons (look : Look) (patterns : List (Option String)) (v : CellValue) (values : List CellValue) :
    look.rowStyles patterns (v :: values) = look.styleAt patterns 0 v :: look.rowStyles patterns.tail values := by
  rw [rowStyles, List.mapIdx_cons, rowStyles]
  congr 2
  funext column v
  exact styleAt_succ look patterns column v

theorem cells_cons (look : Look) (styles : StyleSheet) (patterns : List (Option String)) (v : CellValue)
    (values : List CellValue) :
    look.cells styles patterns (v :: values) =
      ⟨look.value v, styles.numberOf (look.styleAt patterns 0 v)⟩ :: look.cells styles patterns.tail values := by
  rw [cells, List.mapIdx_cons, cells]
  congr 2
  funext column v
  rw [styleAt_succ]

theorem length_cells (look : Look) (styles : StyleSheet) (patterns : List (Option String)) (values : List CellValue) :
    (look.cells styles patterns values).length = values.length := List.length_mapIdx

theorem length_headerRow (look : Look) (schema : Schema α) (styles : StyleSheet) :
    (look.headerRow schema styles).cells.length = schema.headers.length := List.length_map _

theorem rows_append (look : Look) (schema : Schema α) (styles : StyleSheet) (table : List (List CellValue))
    (values : List CellValue) :
    look.rows schema styles (table ++ [values]) =
      look.rows schema styles table ++ [⟨table.length + 1, look.cells styles schema.patterns values⟩] := by
  rw [rows, rows, List.mapIdx_concat]
  rfl

theorem styleSheet_append (look : Look) (schema : Schema α) (table : List (List CellValue))
    (values : List CellValue) :
    look.styleSheet schema (table ++ [values]) =
      (look.styleSheet schema table).registerAll (look.rowStyles schema.patterns values) := by
  rw [styleSheet, styleSheet, List.flatMap_append, ← List.append_assoc, StyleSheet.registerAll_append,
    List.flatMap_singleton]

end Look

theorem Schema.headers_le_resolvedWidths {α : Type} (schema : Schema α) :
    schema.headers.length ≤ schema.resolvedWidths.length := by
  rw [Schema.resolvedWidths, List.length_append, List.length_replicate]
  omega

end SheetExport
