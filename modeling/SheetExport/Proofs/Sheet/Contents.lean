import SheetExport.Proofs.Sheet.Letters
import SheetExport.Proofs.Sheet.Spill
import SheetExport.Sheet.Window

/-! # What a sheet holds

Rows that were paged out and rows in memory make up the rows of a sheet, in the order in which they were added. A sheet
`Holds` the rows that it has paged out, and while its spill is not finished each call that comes through keeps them and
adds the ones that leave memory. How much the window may keep does not occur in `Shows`, so nothing that is written in
the end depends on it.
-/

namespace SheetExport

open Xml

def Row.textOf (rows : List Row) : String := String.join (rows.map Row.toText)

theorem Row.textOf_append (rows more : List Row) : textOf (rows ++ more) = textOf rows ++ textOf more := by
  simp [textOf]

theorem Row.textOf_cons (r : Row) (rows : List Row) : textOf (r :: rows) = r.toText ++ textOf rows := by
  simp [textOf]

namespace Window

theorem render_rows (rows : List Row) : render (rows.flatMap Row.tokens) = Row.textOf rows := by
  induction rows with
  | nil => rfl
  | cons r rows ih => rw [List.flatMap_cons, render_append, ih]; simp [Row.textOf, Row.toText]

variable [Gzip] {disk : Disk} {w u v : Window} {spilled : List Row} {spill : Spill} {finished : Bool} {m n : Nat}

/-- A sheet that was not disposed of, with the rows in its spill. -/
def Holds (disk : Disk) (w : Window) (spilled : List Row) (finished : Bool) : Prop :=
  ∃ spill, w.spill = some spill ∧ spill.finished = finished ∧ spill.rows = spilled.length ∧
    spill.Has disk (Row.textOf spilled).toUTF8

theorem holds_create (name : String) (capacity : Nat) (compressed : Bool) (disk : Disk) :
    Holds disk (create name capacity compressed disk) [] false :=
  ⟨_, rfl, rfl, rfl, Spill.has_create compressed disk⟩

theorem Holds.spilledRows (h : Holds disk w spilled finished) : w.spilledRows = spilled.length := by
  obtain ⟨spill, held, -, count, -⟩ := h
  simp [Window.spilledRows, held, count]

/-- The sheet with one more row in memory. -/
def add (w : Window) (r : Row) : Window :=
  { w with resident := w.resident ++ [r], rowCount := r.index + 1 }

/-- Some rows have left memory, and nothing else has changed but the spill and the letters. -/
def Relieved (w : Window) (n : Nat) (v : Window) : Prop :=
  ∃ spill letters, v = { w with resident := w.resident.drop n, spill := some spill, letters }

namespace Relieved

theorem of_spill (spill : Spill) : w.Relieved 0 { w with spill := some spill } := ⟨spill, w.letters, rfl⟩

theorem trans (first : w.Relieved m u) (second : u.Relieved n v) : w.Relieved (m + n) v := by
  obtain ⟨_, _, rfl⟩ := first
  obtain ⟨spill, letters, rfl⟩ := second
  exact ⟨spill, letters, by rw [List.drop_drop]⟩

theorem resident (h : w.Relieved n v) : v.resident = w.resident.drop n := by
  obtain ⟨_, _, rfl⟩ := h
  rfl

theorem capacity (h : w.Relieved n v) : v.capacity = w.capacity := by
  obtain ⟨_, _, rfl⟩ := h
  rfl

theorem exists_spill (h : w.Relieved n v) : ∃ spill, v.spill = some spill := by
  obtain ⟨spill, _, rfl⟩ := h
  exact ⟨spill, rfl⟩

theorem rowCount (h : w.Relieved n v) : v.rowCount = w.rowCount := by
  obtain ⟨_, _, rfl⟩ := h
  rfl

end Relieved

theorem onSpill_on {α : Type} {a : Action Spill α} {spill' : Spill} {r : Except ExportError α}
    (held : w.spill = some spill) (ran : a.on spill = (r, spill')) :
    (onSpill a).on w = (r, { w with spill := some spill' }) := by
  rw [onSpill, ActionOf.on_of, held]
  simp only [ran]

/-- A spill that has no objection is left as it is. -/
theorem ask_on {a : Action Spill Unit} (held : w.spill = some spill) (granted : a.on spill = (.ok (), spill)) :
    (onSpill a).on w = (.ok (), w) := by
  rw [onSpill_on held granted, ← held]

theorem look_on (held : w.spill = some spill) : (onSpill (pure ())).on w = (.ok (), w) :=
  ask_on held (ActionOf.on_pure () spill)

theorem tokensOf_on (r : Row) :
    (tokensOf r).on w = (.ok (r.tokensBy w.letters).1, { w with letters := (r.tokensBy w.letters).2 }) := rfl

/-- What an action on the spill comes to. -/
theorem onSpill_comes {a : Action Spill Unit} {P : Spill → Prop} {excuse : Prop} (held : w.spill = some spill)
    (comes : a.ComesTo spill excuse fun _ => P) :
    (onSpill a).ComesTo w excuse fun _ v => ∃ spill', P spill' ∧ v = { w with spill := some spill' } := by
  obtain ⟨_, spill', ran, after⟩ | ⟨excused, fault, spill', failed⟩ := comes
  · exact .of_ok (onSpill_on held ran) ⟨spill', after, rfl⟩
  · exact .inr ⟨excused, fault, _, onSpill_on held failed⟩

/-- To page a row out is to append it to the spill. -/
theorem pageRow_on {r : Row} {rest : List Row} (held : w.spill = some spill) (unfinished : spill.finished = false)
    (resident : w.resident = r :: rest) :
    pageRow.on w = (onSpill (Spill.append (r.tokensBy w.letters).1)).on
      { w with resident := rest, letters := (r.tokensBy w.letters).2 } := by
  rw [pageRow, ActionOf.on_get_bind, resident]
  have granted := ask_on (w := { w with resident := rest }) held (Spill.demandUnfinished_on unfinished)
  exact (ActionOf.on_bind_ok granted _).trans (ActionOf.on_bind_ok (tokensOf_on r) _)

/-- A row that comes next and is not too wide is refused for its numbers alone. -/
theorem refusal?_eq {index : Nat} {cells : List Cell} (below : index < maxRows) (next : w.rowCount ≤ index)
    (narrow : cells.length ≤ maxColumns) :
    w.refusal? index cells = (firstNotFinite cells 0).map fun (column, x) => .notFinite index column x := by
  rw [refusal?, if_neg (Nat.not_le.mpr below), if_neg (Nat.not_lt.mpr next), if_neg (Nat.not_lt.mpr narrow)]

theorem append_refused {index : Nat} {cells : List Cell} {fault : SheetFault}
    (refused : w.refusal? index cells = some fault) : (append index cells).on w = (.error fault.toError, w) := by
  rw [append, ActionOf.on_get_bind, refused]
  rfl

theorem append_accepted {index : Nat} {cells : List Cell} (accepted : w.refusal? index cells = none) :
    (append index cells).on w =
      if w.capacity < w.resident.length + 1 then (pageOut w.capacity).on (w.add ⟨index, cells⟩)
      else (.ok (), w.add ⟨index, cells⟩) := by
  rw [append, ActionOf.on_get_bind, accepted]
  by_cases full : w.capacity < w.resident.length + 1
  · simp [full, add]
  · simp [full, add]

/-! ## The worksheet -/

/-- A sheet that keeps all of its rows in memory. -/
def whole (name : String) (widths : List Nat) (rows : List Row) : Window where
  name
  widths
  capacity := rows.length
  resident := rows
  spill := none
  rowCount := (rows.getLast?.map fun r => r.index + 1).getD 0
  letters := .empty

/-- The worksheet from its first row on. -/
def tailText (rows : List Row) : String := Row.textOf rows ++ "</sheetData></worksheet>"

/-- The worksheet of a sheet that has paged out some rows. -/
def partText (w : Window) (spilled : List Row) : String := render w.headTokens ++ tailText (spilled ++ w.resident)

/-- The worksheet of a sheet that never paged anything out: what stands before its rows, and the rows. -/
def worksheetText (name : String) (widths : List Nat) (rows : List Row) : String :=
  render (whole name widths rows).headTokens ++ tailText rows

/-- Of the sheet nothing but its letters changes while the rows are made into tokens. -/
theorem tailTokens_on (rows : List Row) (w : Window) :
    ∃ tokens letters, (tailTokens rows).on w = (.ok tokens, { w with letters }) ∧ render tokens = tailText rows := by
  induction rows generalizing w with
  | nil => exact ⟨_, w.letters, rfl, rfl⟩
  | cons r rest ih =>
      obtain ⟨tokens, letters, written, text⟩ := ih { w with letters := (r.tokensBy w.letters).2 }
      refine ⟨(r.tokensBy w.letters).1 ++ tokens, letters, ?_, ?_⟩
      · rw [tailTokens, ActionOf.on_bind_ok (tokensOf_on r), ActionOf.on_bind_ok written]
        rfl
      · rw [render_append, Row.render_tokensBy, text, tailText, tailText, Row.textOf_cons, String.append_assoc]

theorem columnCount_eq (fits : ∀ r ∈ w.resident, r.cells.length ≤ w.widths.length) :
    w.columnCount = max w.widths.length 1 := by
  have widest : ∀ (rows : List Row) (n : Nat), n ≤ w.widths.length →
      (∀ r ∈ rows, r.cells.length ≤ w.widths.length) →
      (rows.map fun r => r.cells.length).foldl max n ≤ w.widths.length := by
    intro rows
    induction rows with
    | nil => exact fun _ le _ => le
    | cons r rows ih =>
        intro n le fits
        exact ih _ (Nat.max_le.mpr ⟨le, fits r List.mem_cons_self⟩) fun s inside =>
          fits s (List.mem_cons_of_mem r inside)
  rw [columnCount, Nat.max_eq_left (widest w.resident 0 (Nat.zero_le _) fits)]

/-- A sheet that was not disposed of, with its name, the widths of its columns and its rows. -/
structure Shows (disk : Disk) (w : Window) (name : String) (widths : List Nat) (rows : List Row) : Prop where
  name : w.name = name
  widths : w.widths = widths
  rowCount : w.rowCount = (rows.getLast?.map fun r => r.index + 1).getD 0
  kept : ∃ spilled, Holds disk w spilled false ∧ rows = spilled ++ w.resident

variable {name : String} {widths : List Nat} {rows : List Row}

theorem shows_create (name : String) (capacity : Nat) (compressed : Bool) (disk : Disk) :
    Shows disk (create name capacity compressed disk) name [] [] :=
  ⟨rfl, rfl, rfl, [], holds_create name capacity compressed disk, rfl⟩

theorem headTokens_eq (h : Shows disk w name widths rows) (fits : ∀ r ∈ rows, r.cells.length ≤ widths.length) :
    w.headTokens = (whole name widths rows).headTokens := by
  obtain ⟨rfl, rfl, count, spilled, -, rfl⟩ := h
  have columns := columnCount_eq (w := w) fun r inside => fits r (List.mem_append_right _ inside)
  have columns' := columnCount_eq (w := whole w.name w.widths (spilled ++ w.resident)) fits
  simp only [headTokens, columns, columns', count]
  rfl

/-- What an action on the spill and an output comes to. -/
theorem onSpillWith_comes {α ω : Type} {a : Action (Spill × ω) α} {P : α → Spill × ω → Prop} {excuse : Prop} {s : ω}
    (held : w.spill = some spill) (comes : a.ComesTo (spill, s) excuse P) :
    (onSpillWith a).ComesTo (w, s) excuse fun x y =>
      ∃ spill', P x (spill', y.2) ∧ y.1 = { w with spill := some spill' } := by
  rw [ActionOf.ComesTo, onSpillWith, ActionOf.on_of]
  simp only [held]
  obtain ⟨x, ⟨spill', t⟩, ran, after⟩ | ⟨excused, fault, ⟨spill', t⟩, failed⟩ := comes
  · exact .inl ⟨x, ({ w with spill := some spill' }, t), by simp only [ran], spill', after, rfl⟩
  · exact .inr ⟨excused, fault, ({ w with spill := some spill' }, t), by simp only [failed]⟩

/-! ## What comes through -/

variable [LawfulGzip]

theorem pageRow_comes {r : Row} {rest : List Row} (h : Holds disk w spilled false) (resident : w.resident = r :: rest) :
    pageRow.ComesTo w (disk ≠ .sound) fun _ v => w.Relieved 1 v ∧ Holds disk v (spilled ++ [r]) false := by
  obtain ⟨spill, held, unfinished, count, has⟩ := h
  rw [ActionOf.ComesTo, pageRow_on held unfinished resident]
  have appended := Spill.append_comes (r.tokensBy w.letters).1 unfinished has
  rw [Row.render_tokensBy] at appended
  refine (onSpill_comes (w := { w with resident := rest, letters := (r.tokensBy w.letters).2 }) held appended).imp id ?_
  rintro _ v ⟨spill', ⟨has, unfinished, rows⟩, rfl⟩
  refine ⟨⟨spill', (r.tokensBy w.letters).2, by simp only [resident, List.drop_one, List.tail_cons]⟩, spill', rfl,
    unfinished, ?_, ?_⟩
  · rw [rows, count, List.length_append, List.length_singleton]
  · rwa [Row.textOf_append, toUTF8_append, show Row.textOf [r] = r.toText by simp [Row.textOf]]

/-- Rows leave memory from the oldest on and arrive in the spill in that order. -/
theorem pageRows_comes (h : Holds disk w spilled false) (enough : n ≤ w.resident.length) :
    (pageRows n).ComesTo w (disk ≠ .sound) fun _ v =>
      w.Relieved n v ∧ Holds disk v (spilled ++ w.resident.take n) false := by
  induction n generalizing w spilled with
  | zero =>
      rw [List.take_zero, List.append_nil]
      have ⟨spill, held, _⟩ := h
      exact .of_ok rfl ⟨⟨spill, w.letters, by rw [List.drop_zero, ← held]⟩, h⟩
  | succ n ih =>
      cases resident : w.resident with
      | nil => simp [resident] at enough
      | cons r rest =>
          rw [resident, List.length_cons] at enough
          refine (pageRow_comes h resident).bind ?_
          rintro _ u ⟨paged, h⟩
          have left : u.resident = rest := by rw [paged.resident, resident, List.drop_one, List.tail_cons]
          refine (ih h (by rw [left]; omega)).imp id ?_
          rintro _ v ⟨pagedAll, h⟩
          refine ⟨Nat.add_comm 1 n ▸ paged.trans pagedAll, ?_⟩
          rwa [left, List.append_assoc] at h

theorem pageOut_comes (keep : Nat) (h : Holds disk w spilled false) :
    (pageOut keep).ComesTo w (disk ≠ .sound) fun _ v => w.Relieved (w.resident.length - keep) v ∧
      Holds disk v (spilled ++ w.resident.take (w.resident.length - keep)) false := by
  have ⟨_, held, _⟩ := h
  rw [pageOut]
  refine .after (look_on held) ((pageRows_comes h (Nat.sub_le ..)).bind ?_)
  rintro _ u ⟨paged, h⟩
  obtain ⟨spill, held, unfinished, count, has⟩ := h
  refine (onSpill_comes held (Spill.flush_comes unfinished has)).imp id ?_
  rintro _ v ⟨spill', ⟨has, unfinished, rows⟩, rfl⟩
  exact ⟨paged.trans (.of_spill spill'), spill', rfl, unfinished, rows.trans count, has⟩

theorem pageOut_shows (keep : Nat) (h : Shows disk w name widths rows) :
    (pageOut keep).ComesTo w (disk ≠ .sound) fun _ v => Shows disk v name widths rows := by
  obtain ⟨names, width, count, spilled, h, rfl⟩ := h
  refine (pageOut_comes keep h).imp id ?_
  rintro _ v ⟨⟨spill, letters, rfl⟩, h⟩
  exact ⟨names, width, count, _, h, by rw [List.append_assoc, List.take_append_drop]⟩

/-- A row that is accepted is the last one, whether or not older ones are paged out for it. -/
theorem append_shows {index : Nat} {cells : List Cell} (accepted : w.refusal? index cells = none)
    (h : Shows disk w name widths rows) :
    (append index cells).ComesTo w (disk ≠ .sound) fun _ v => Shows disk v name widths (rows ++ [⟨index, cells⟩]) := by
  obtain ⟨names, width, count, spilled, h, rfl⟩ := h
  have added : Shows disk (w.add ⟨index, cells⟩) name widths (spilled ++ w.resident ++ [⟨index, cells⟩]) :=
    ⟨names, width, by simp [add], spilled, h, List.append_assoc ..⟩
  rw [ActionOf.ComesTo, append_accepted accepted]
  split
  · exact pageOut_shows w.capacity added
  · exact .inl ⟨(), _, rfl, added⟩

/-! ### Writing the worksheet -/

variable {ω : Type} [Output ω] {H : ByteArray → ω → Prop} {excuse : ByteArray → Prop}

/-- The worksheet is written from its two places, the spill and the rows in memory, and can be written again. -/
theorem writePart_comes (takes : Takes excuse H) (h : Holds disk w spilled finished) {taken : ByteArray} {s : ω}
    (ready : H taken s) :
    writePart.ComesTo (w, s) (disk ≠ .sound ∨ excuse (taken ++ (w.partText spilled).toUTF8)) fun _ x =>
      (w.Relieved 0 x.1 ∧ Holds disk x.1 spilled true) ∧ H (taken ++ (w.partText spilled).toUTF8) x.2 := by
  obtain ⟨spill, held, -, count, has⟩ := h
  have pieces : taken ++ (w.partText spilled).toUTF8 =
      taken ++ (render w.headTokens).toUTF8 ++ (Row.textOf spilled).toUTF8 ++ (tailText w.resident).toUTF8 := by
    rw [partText, tailText, Row.textOf_append, String.append_assoc, toUTF8_append, toUTF8_append, tailText]
    simp only [ByteArray.append_assoc]
  rw [pieces]
  refine .after (ActionOf.on_first_of (look_on held) s) (.after (x := (w, s)) rfl ?_)
  have wroteHead := (Writer.writeAll_appends takes w.headTokens taken s ready).second (u := w)
  refine (wroteHead.imp (fun excused => .inr (takes.lasts _ _ (takes.lasts _ _ excused))) fun _ _ => id).bind ?_
  rintro _ ⟨w', t⟩ ⟨ready, same⟩
  obtain rfl : w' = w := same
  refine ((onSpillWith_comes held (Spill.copyTo_comes takes has ready)).imp
    (Or.imp_right (takes.lasts _ _)) fun _ _ => id).bind ?_
  rintro size ⟨w'', t⟩ ⟨spill', ⟨⟨has, finished, rows⟩, ready⟩, same⟩
  obtain rfl : w'' = { w' with spill := some spill' } := same
  obtain ⟨tail, letters, listed, rendered⟩ := tailTokens_on w'.resident { w' with spill := some spill' }
  refine .after (ActionOf.on_first_of listed t) ?_
  have wroteTail := (Writer.writeAll_appends takes tail _ t ready).second (u := { w' with spill := some spill', letters })
  rw [rendered] at wroteTail
  refine wroteTail.imp .inr ?_
  rintro _ ⟨w'', t⟩ ⟨ready, same⟩
  obtain rfl : w'' = { w' with spill := some spill', letters } := same
  exact ⟨⟨⟨spill', letters, rfl⟩, spill', rfl, finished, rows.trans count, has⟩, ready⟩

/-- Wherever the rows are, the worksheet is that of a sheet with all of them in memory. -/
theorem writePart_writes (takes : Takes excuse H) (h : Shows disk w name widths rows)
    (fits : ∀ r ∈ rows, r.cells.length ≤ widths.length) {taken : ByteArray} {s : ω} (ready : H taken s) :
    writePart.ComesTo (w, s) (disk ≠ .sound ∨ excuse (taken ++ (worksheetText name widths rows).toUTF8)) fun _ x =>
      H (taken ++ (worksheetText name widths rows).toUTF8) x.2 := by
  have head := headTokens_eq h fits
  obtain ⟨names, width, count, spilled, h, split⟩ := h
  have whole : w.partText spilled = worksheetText name widths rows := by
    rw [partText, head, ← split, worksheetText]
  rw [← whole]
  exact (writePart_comes takes h ready).imp id fun _ _ => And.right

end Window

end SheetExport
