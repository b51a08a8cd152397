import Mathlib.Order.MinMax
import SheetExport.Proofs.Sheet.CellTags
import SheetExport.Proofs.Sheet.Reached

/-! # How far a worksheet says that it reaches

The dimension of a worksheet is a range from its first cell on. Its last row is that of the last row appended, wherever
the rows are by then. Its last column is found from the widths and the rows in memory alone: a row that was paged out
counts for nothing, however wide it is.
-/

namespace SheetExport.Window

open Xml

/-! ## The last column -/

theorem lt_foldl_max_iff {k : Nat} (lengths : List Nat) (n : Nat) :
    k < lengths.foldl max n ↔ k < n ∨ ∃ m ∈ lengths, k < m := by
  induction lengths generalizing n with
  | nil => simp
  | cons m lengths ih => simp [ih, or_assoc]

theorem suffix_valueTags (v : CellValue) (cell : Path) : ∀ t ∈ v.tags cell, cell <:+ t.path := by
  intro t inside
  cases v with
  | empty => cases inside
  | text s =>
      simp only [CellValue.tags, List.mem_cons, List.not_mem_nil, or_false] at inside
      rcases inside with rfl | rfl
      · exact List.suffix_cons _ _
      · exact (List.suffix_cons _ _).trans (List.suffix_cons _ _)
  | _ => exact List.mem_singleton.mp inside ▸ List.suffix_cons _ _

/-- Whatever is tagged of rows is a row or inside of one. -/
theorem suffix_rowsTags {rows : List Row} {t : Tag}
    (inside : t ∈ rows.flatMap (Row.tags sheetDataPath)) : rowPath <:+ t.path := by
  obtain ⟨r, -, there⟩ := List.mem_flatMap.mp inside
  cases List.mem_cons.mp there with
  | inl own => exact own ▸ List.suffix_rfl
  | inr inner =>
      obtain ⟨⟨c, column⟩, -, tagged⟩ := List.mem_flatMap.mp inner
      have cell : rowPath <:+ cellPath := List.suffix_cons _ _
      simp only [Cell.tags] at tagged
      split at tagged
      · cases tagged
      · cases List.mem_cons.mp tagged with
        | inl own => exact own ▸ cell
        | inr value => exact cell.trans (suffix_valueTags c.value cellPath t value)

section

variable [Gzip] {disk : Disk} {w v : Window} {spilled rows : List Row} {lapses faults : Nat} {finished : Bool}

/-- A column counts if it has a width or is in a row in memory; the first one always does. -/
theorem lt_columnCount_iff {column : Nat} :
    column < w.columnCount ↔
      column < w.widths.length ∨ (∃ r ∈ w.resident, column < r.cells.length) ∨ column = 0 := by
  simp [columnCount, lt_foldl_max_iff]

theorem columnCount_pos (w : Window) : 0 < w.columnCount := lt_columnCount_iff.mpr (.inr (.inr rfl))

/-! ## The last row -/

/-- As long as no call has failed after it had begun, the last row is the last one whose call came through. -/
theorem Reached.rowCount_eq (reached : Reached disk w spilled rows lapses faults) (none : lapses = 0)
    (clean : faults = 0) : w.rowCount = (rows.getLast?.map fun r => r.index + 1).getD 0 := by
  induction reached with
  | fresh name capacity compressed => rfl
  | setWidths widths _ ih => exact ih none clean
  | @done w v spilled rows lapses faults c _ ran ih =>
      cases c with
      | append index cells =>
          have last : v.rowCount = index + 1 := by
            rw [← rowCount_append (append_through ran).1, show (append index cells).on w = (.ok (), v) from ran]
          simp [Call.rows, last]
      | pageOut keep =>
          have kept := pageOut_keeps_rowCount keep w (ih none clean)
          rw [show (pageOut keep).on w = (.ok (), v) from ran] at kept
          simpa [Call.rows] using kept
  | refused _ failed refused ih =>
      obtain ⟨_, same⟩ := act_refused refused
      obtain rfl := congrArg Prod.snd (same.symm.trans failed)
      exact ih none clean
  | lapsed _ _ _ _ _ => exact absurd none (Nat.succ_ne_zero _)
  | broke _ _ _ _ _ => exact absurd clean (Nat.succ_ne_zero _)
  | @wrote w _ _ _ _ ω _ s _ _ ih =>
      have kept := ih none clean
      cases there : w.spill with
      | none => rwa [writePart_disposed there]
      | some spill =>
          obtain ⟨_, _, left, -⟩ := writePart_leaves (P := fun _ => True) there s trivial (fun _ _ => trivial)
            fun _ _ => trivial
          rwa [left]
  | spoiled _ _ _ _ => exact absurd clean (Nat.succ_ne_zero _)
  | disposed _ ih => exact ih none clean

/-! ## The tags -/

/-- The tags of a worksheet are those of the cells of its rows and one that tells how far it reaches, among others. -/
theorem tags?_covering (w : Window) (rows : List Row) (begun : 0 < w.rowCount) :
    ∃ tags, tags? (render w.headTokens ++ (Row.textOf rows ++ "</sheetData></worksheet>")) = some tags ∧
      (tags.filter fun t => t.path = dimensionPath).map (Tag.value? · "ref") =
        [some ("A1:" ++ cellReference (w.rowCount - 1) (w.columnCount - 1)).toList] ∧
      ∀ row column, (∃ t ∈ tags, IsCellAt t row column) ↔
        ∃ r ∈ rows, r.index = row ∧ ∃ c, r.cells[column]? = some c ∧ c.isOmitted = false := by
  obtain ⟨head, document, other, dimension⟩ := tags?_worksheet w rows
  refine ⟨_, document, ?_, fun row column => ⟨?_, ?_⟩⟩
  · have apart : (rows.flatMap (Row.tags sheetDataPath)).filter (fun t => t.path = dimensionPath) = [] := by
      refine List.filter_eq_nil_iff.mpr fun t inside same => ?_
      have within := suffix_rowsTags inside
      rw [of_decide_eq_true same] at within
      exact absurd within (by decide)
    rw [List.filter_append, dimension, apart, List.append_nil, dimensionTags, if_neg (Nat.pos_iff_ne_zero.mp begun)]
    rfl
  · rintro ⟨t, inside, cell⟩
    cases List.mem_append.mp inside with
    | inl before => exact absurd cell.1 (other t before)
    | inr tagged =>
        obtain ⟨r, held, column', c, listed, written, rfl⟩ := mem_rowsTags.mp ⟨tagged, cell.1⟩
        obtain ⟨rfl, rfl⟩ := cell.unique (isCellAt_tag c r.index column')
        exact ⟨r, held, rfl, c, listed, written⟩
  · rintro ⟨r, held, rfl, c, listed, written⟩
    have tagged := mem_rowsTags.mpr ⟨r, held, column, c, listed, written, rfl⟩
    exact ⟨_, List.mem_append_right _ tagged.1, isCellAt_tag c r.index column⟩

/-! ## The worksheet -/

/-- A worksheet that says of itself that it reaches from its first cell to the one at a place. -/
structure Reaches (w : Window) (rows : List Row) (text : String) (tags : List Tag)
    (lastRow lastColumn : Nat) : Prop where
  read : tags? text = some tags
  dimension : (tags.filter fun t => t.path = dimensionPath).map (Tag.value? · "ref") =
    [some ("A1:" ++ cellReference lastRow lastColumn).toList]
  cells : ∀ row column, (∃ t ∈ tags, IsCellAt t row column) ↔
    ∃ r ∈ rows, r.index = row ∧ ∃ c, r.cells[column]? = some c ∧ c.isOmitted = false
  lastRow : lastRow + 1 = w.rowCount
  lastColumn : lastColumn + 1 = w.columnCount

theorem reaches_partText (w : Window) (spilled : List Row) (begun : 0 < w.rowCount) :
    ∃ tags, Reaches w (spilled ++ w.resident) (w.partText spilled) tags (w.rowCount - 1) (w.columnCount - 1) := by
  obtain ⟨tags, document, dimension, cells⟩ := tags?_covering w (spilled ++ w.resident) begun
  exact ⟨tags, document, dimension, cells, Nat.sub_add_cancel begun, Nat.sub_add_cancel w.columnCount_pos⟩

namespace Reaches

variable {text : String} {tags : List Tag} {lastRow lastColumn : Nat}

/-- No row lies below the last one. -/
theorem row_le (h : Reaches w rows text tags lastRow lastColumn) (below : ∀ r ∈ rows, r.index < w.rowCount) :
    ∀ t ∈ tags, ∀ row column, IsCellAt t row column → row ≤ lastRow := by
  intro t inside row column cell
  obtain ⟨r, held, rfl, -⟩ := (h.cells row column).mp ⟨t, inside, cell⟩
  have := below r held
  have := h.lastRow
  omega

theorem le_lastColumn_iff (h : Reaches w rows text tags lastRow lastColumn) (column : Nat) :
    column ≤ lastColumn ↔
      column < w.widths.length ∨ (∃ r ∈ w.resident, column < r.cells.length) ∨ column = 0 := by
  rw [← lt_columnCount_iff, ← h.lastColumn, Nat.lt_succ_iff]

/-- No cell lies beyond the last column exactly if none does that was paged out. -/
theorem column_le_iff (h : Reaches w (spilled ++ w.resident) text tags lastRow lastColumn) :
    (∀ t ∈ tags, ∀ row column, IsCellAt t row column → column ≤ lastColumn) ↔
      ∀ r ∈ spilled, ∀ column c, r.cells[column]? = some c → c.isOmitted = false → column ≤ lastColumn := by
  constructor
  · intro covered r paged column c listed written
    obtain ⟨t, inside, cell⟩ := (h.cells r.index column).mpr
      ⟨r, List.mem_append_left _ paged, rfl, c, listed, written⟩
    exact covered t inside r.index column cell
  · intro covered t inside row column cell
    obtain ⟨r, held, -, c, listed, written⟩ := (h.cells row column).mp ⟨t, inside, cell⟩
    cases List.mem_append.mp held with
    | inl paged => exact covered r paged column c listed written
    | inr resident =>
        have within := (List.getElem?_eq_some_iff.mp listed).1
        exact (h.le_lastColumn_iff column).mpr (.inr (.inl ⟨r, resident, within⟩))

end Reaches

variable {ω : Type} [Output ω] {H : ByteArray → ω → Prop} [LawfulGzip]

/-- The dimension of the worksheet of a sheet with a row, however its rows came there: it ends at the number of the last
    row, below which there is no cell, and at the last column that has a width or is in a row in memory. It covers all
    cells exactly if it covers those that were written to the spill. -/
theorem dimension_covers_iff (reached : Reached .sound w spilled rows lapses faults) (there : w.spill ≠ none)
    (begun : 0 < w.rowCount) (all : TakesAll H) {taken : ByteArray} {s : ω} (ready : H taken s) :
    ∃ text v t tags lastRow lastColumn, writePart.on (w, s) = (.ok (), v, t) ∧ H (taken ++ text.toUTF8) t ∧
      tags? text = some tags ∧
      (tags.filter fun t => t.path = dimensionPath).map (Tag.value? · "ref") =
        [some ("A1:" ++ cellReference lastRow lastColumn).toList] ∧
      text = w.partText spilled ∧ lastRow + 1 = w.rowCount ∧
      (lapses = 0 → spilled ++ w.resident = rows ∧ rows.getLast?.map Row.index = some lastRow) ∧
      (∀ t ∈ tags, ∀ row column, IsCellAt t row column → row ≤ lastRow) ∧
      (∀ column, column ≤ lastColumn ↔
        column < w.widths.length ∨ (∃ r ∈ w.resident, column < r.cells.length) ∨ column = 0) ∧
      ((∀ t ∈ tags, ∀ row column, IsCellAt t row column → column ≤ lastColumn) ↔
        ∀ r ∈ spilled, ∀ column c, r.cells[column]? = some c → c.isOmitted = false → column ≤ lastColumn) := by
  have clean := reached.sound
  obtain gone | follows := reached.followed
  · exact absurd gone there
  · obtain ⟨⟨_, holds⟩, -, traced⟩ := follows clean
    obtain ⟨_, ⟨v, t⟩, wrote, -, ready⟩ := (writePart_comes all.takes holds ready).through (by simp)
    obtain ⟨tags, reaches⟩ := reaches_partText w spilled begun
    refine ⟨w.partText spilled, v, t, tags, _, _, wrote, ready, reaches.read, reaches.dimension, rfl,
      reaches.lastRow, fun none => ⟨traced.whole none, ?_⟩, reaches.row_le traced.below,
      reaches.le_lastColumn_iff, reaches.column_le_iff⟩
    have count := reached.rowCount_eq none clean
    rw [← reaches.lastRow] at count
    cases last : rows.getLast? with
    | none => simp [last] at count
    | some r => simpa [last] using count.symm

end

/-! ## A wide row that was paged out -/

def wideRow : Row := ⟨0, [⟨.int 1, 0⟩, ⟨.int 2, 0⟩]⟩

def narrowRow : Row := ⟨1, [⟨.int 3, 0⟩]⟩

/-- A sheet without widths, which has paged out the wider one of its rows. -/
theorem exists_reached_paged :
    ∃ w, Reached .sound w [wideRow] [wideRow, narrowRow] 0 0 ∧ Holds .sound w [wideRow] false ∧
      w.resident = [narrowRow] ∧ w.widths = [] ∧ w.rowCount = 2 := by
  have reached : Reached .sound (single wideRow.cells) [] [wideRow] 0 0 := reached_single wideRow.cells rfl
  have holds : Holds .sound (single wideRow.cells) [] false := holds_single _
  obtain ⟨_, w, paged, left, held⟩ := (pageOut_comes (w := (single wideRow.cells).add narrowRow) 1 holds).through
    (not_not_intro rfl)
  have appended : (Call.append 1 narrowRow.cells).act.on (single wideRow.cells) = (.ok (), w) :=
    (append_accepted rfl).trans ((if_pos (by decide)).trans paged)
  have held : Holds .sound w [wideRow] false := held
  have moved : (Call.append 1 narrowRow.cells).moved (single wideRow.cells) w = [wideRow] := by
    rw [Call.moved, held.spilledRows]
    rfl
  have reached := reached.done appended
  rw [moved] at reached
  obtain ⟨spill, letters, rfl⟩ := left
  exact ⟨_, reached, held, rfl, rfl, rfl⟩

/-- With widths for all of its cells, the wide row is covered. -/
theorem dimension_covers_iff_paged :
    ∃ w text v t tags lastColumn, Reached .sound w [wideRow] [wideRow, narrowRow] 0 0 ∧ w.resident = [narrowRow] ∧
      writePart.on (w, Sink.unlimited) = (.ok (), v, t) ∧ Sink.Open (.empty ++ text.toUTF8) t ∧
      tags? text = some tags ∧
      (tags.filter fun t => t.path = dimensionPath).map (Tag.value? · "ref") =
        [some ("A1:" ++ cellReference 1 lastColumn).toList] ∧
      ∀ t ∈ tags, ∀ row column, IsCellAt t row column → row ≤ 1 ∧ column ≤ lastColumn := by
  obtain ⟨w, reached, holds, resident, -, count⟩ := exists_reached_paged
  obtain ⟨spill, there, -⟩ := holds
  obtain ⟨text, v, t, tags, lastRow, lastColumn, wrote, ready, read, dimension, -, last, -, rowsBelow, columns,
    covers⟩ := dimension_covers_iff (reached.setWidths [10, 10])
      (show w.spill ≠ none by rw [there]; exact Option.some_ne_none _) (show 0 < w.rowCount by rw [count]; decide)
      Sink.takesAll (s := Sink.unlimited) ⟨rfl, rfl, rfl⟩
  obtain rfl : lastRow = 1 := by simpa [count] using last
  have paged : ∀ r ∈ [wideRow], ∀ column c, r.cells[column]? = some c → c.isOmitted = false → column ≤ lastColumn := by
    intro r inside column c listed _
    obtain rfl := List.mem_singleton.mp inside
    exact (columns column).mpr (.inl (List.getElem?_eq_some_iff.mp listed).1)
  exact ⟨_, text, v, t, tags, lastColumn, reached.setWidths [10, 10], resident, wrote, ready, read, dimension,
    fun t inside row column cell => ⟨rowsBelow t inside row column cell, covers.mpr paged t inside row column cell⟩⟩

/-- Without widths, the second cell of the wide row lies beyond the last column. -/
theorem paged_row_outside_dimension :
    ∃ w text v t tags, Reached .sound w [wideRow] [wideRow, narrowRow] 0 0 ∧
      writePart.on (w, Sink.unlimited) = (.ok (), v, t) ∧ Sink.Open (.empty ++ text.toUTF8) t ∧
      tags? text = some tags ∧
      (tags.filter fun t => t.path = dimensionPath).map (Tag.value? · "ref") = [some "A1:A2".toList] ∧
      ∃ t ∈ tags, IsCellAt t 0 1 := by
  obtain ⟨w, reached, holds, resident, widths, count⟩ := exists_reached_paged
  obtain ⟨_, ⟨v, t⟩, wrote, -, ready⟩ := (writePart_comes Sink.takesAll.takes holds (s := Sink.unlimited)
    ⟨rfl, rfl, rfl⟩).through (by simp)
  obtain ⟨tags, reaches⟩ := reaches_partText w [wideRow] (by rw [count]; decide)
  have columns : w.columnCount = 1 := by rw [columnCount, resident, widths]; rfl
  have dimension := reaches.dimension
  rw [count, columns, show cellReference (2 - 1) (1 - 1) = "A2" by decide +kernel] at dimension
  have second : ∃ t ∈ tags, IsCellAt t 0 1 :=
    (reaches.cells 0 1).mpr ⟨wideRow, List.mem_cons_self, rfl, ⟨.int 2, 0⟩, rfl, rfl⟩
  exact ⟨w, _, v, t, tags, reached, wrote, ready, reaches.read, dimension, second⟩

end SheetExport.Window
