import SheetExport.Pattern.Engine
import SheetExport.Proofs.Calendar.Timestamp
import SheetExport.Proofs.Export.Loop
import SheetExport.Proofs.Sheet.StoredGzip
import SheetExport.Proofs.Workbook.Archive
import SheetExport.Source.Reading

/-! # Exports that nobody stops

Around the loop stand the header of the sheet and the writing of the workbook. Put together with it, they make an
export a map: what it writes are the rows of the reference, whatever of them was paged out or flushed on the way.
What an export has written with success is read back, whatever may fail; that it succeeds is known of a sound disk and an
output that takes everything.
-/

namespace SheetExport

variable {α σ ω : Type}

def Source.opening (source : Source σ ω α) : Option Filter → Action (σ × ω) Unit
  | some filter => source.streamMatching filter
  | none => source.stream

namespace Run

theorem rowLimit_lt (config : Config) : rowLimit config < maxRows :=
  Nat.lt_of_le_of_lt (Nat.min_le_right _ _) (by decide)

section Steps

variable [Gzip] {config : Config} {schema : Schema α} {source : Source σ ω α} {options : ExportOptions ω} {disk : Disk}

theorem onSource_on {β : Type} {a : Action (σ × ω) β} {r : Run σ ω} {res : Except ExportError β} {s : σ × ω}
    (ran : a.on (r.source, r.world) = (res, s)) :
    (onSource a).on r = (res.mapError Halt.error, { r with source := s.1, world := s.2 }) := by
  rw [onSource, ActionOf.on_within, ActionOf.on_failingAs, ran]

theorem writeEntities_finished (config : Config) (options : ExportOptions ω) (schema : Schema α) {r : Run σ ω}
    {s : σ × ω} (n : Nat) (ended : source.next (r.source, r.world) = (.finished, s)) :
    (writeEntities config options schema source (n + 1)).on r = (.ok (), { r with source := s.1, world := s.2 }) := by
  rw [writeEntities, ActionOf.on_bind_ok (readSource_on ended)]
  rfl

theorem writeEntities_fault (config : Config) (options : ExportOptions ω) (schema : Schema α) {r : Run σ ω}
    {s : σ × ω} {e : ExportError} (n : Nat) (failed : source.next (r.source, r.world) = (.fault e, s)) :
    (writeEntities config options schema source (n + 1)).on r =
      (.error (.error (streamFault r.rows e)), { r with source := s.1, world := s.2 }) := by
  rw [writeEntities, ActionOf.on_bind_ok (readSource_on failed)]
  rfl

variable [Zip]

def conclude (options : ExportOptions ω) (now : Timestamp) : RunStep σ ω Unit := do
  tell options .writingWorkbook
  writeOutput now
  tell options .completed

theorem exportRows_eq (config : Config) (options : ExportOptions ω) (schema : Schema α) (source : Source σ ω α)
    (filter : Option Filter) (now : Timestamp) :
    exportRows config options schema source filter now = (do
      tell options .starting
      onWorkbook (writeHeader config schema)
      onSource (source.opening filter)
      writeEntities config options schema source (rowLimit config)
      conclude options now) := by
  cases filter <;> rfl

/-- Everything up to the loop leaves a run at the beginning of its course, with its beginning told. -/
theorem exportRows_begun_telling {filter : Option Filter} (now : Timestamp) {own : σ} {world : ω} {output : Sink}
    {spillDisk : Except IoFault Disk} {book : Workbook}
    (headed : (writeHeader config schema).on (.create config.window config.compressSpill spillDisk) = (.ok (), book))
    (shown : book.Shown disk config.look schema []) {s : σ × ω}
    (opens : (source.opening filter).on (own, options.listen ⟨.starting, 0, 0⟩ world) = (.ok (), s)) :
    ∃ r, At disk config schema source options s output [] r ∧ r.events = [⟨.starting, 0, 0⟩] ∧
      (exportRows config options schema source filter now).on (start config own world output spillDisk) =
        (do writeEntities config options schema source (rowLimit config)
            conclude options now : RunStep σ ω Unit).on r := by
  refine ⟨⟨s.1, s.2, book, .empty, output, 0, 0, [⟨.starting, 0, 0⟩]⟩,
    ⟨rfl, rfl, ?_, rfl, shown, FormatMemo.agrees_empty _ _⟩, rfl, ?_⟩
  · exact (Nat.zero_div _).symm
  · rw [exportRows_eq, ActionOf.on_bind_ok (tell_on options .starting _),
      ActionOf.on_bind_ok (onWorkbook_on (r := (start config own world output spillDisk).told options .starting) headed)]
    exact ActionOf.on_bind_ok (onSource_on
      (r := { (start config own world output spillDisk).told options .starting with workbook := book }) opens) _

/-- On a sound disk the header is written if it fits. -/
theorem exportRows_begun [LawfulGzip] (config : Config) (options : ExportOptions ω) (schema : Schema α)
    (source : Source σ ω α) (filter : Option Filter) (now : Timestamp) (own : σ) (world : ω) (output : Sink)
    (fits : schema.headers.length ≤ maxColumns) {s : σ × ω}
    (opens : (source.opening filter).on (own, options.listen ⟨.starting, 0, 0⟩ world) = (.ok (), s)) :
    ∃ r, At .sound config schema source options s output [] r ∧
      (exportRows config options schema source filter now).on (start config own world output (.ok .sound)) =
        (do writeEntities config options schema source (rowLimit config)
            conclude options now : RunStep σ ω Unit).on r := by
  obtain ⟨_, book, headed, shown⟩ :=
    (writeHeader_comes config schema fits config.window config.compressSpill .sound).through fun unsound => unsound rfl
  obtain ⟨r, there, -, begun⟩ := exportRows_begun_telling now headed shown opens
  exact ⟨r, there, begun⟩

/-- What was written in the end is read back as the parts of the workbook. -/
theorem conclude_through [LawfulGzip] [LawfulZip] {table : List (List CellValue)} {r t : Run σ ω}
    (h : r.workbook.Shown disk config.look schema table) {now : Timestamp}
    (ran : (conclude options now).on r = (.ok (), t)) :
    ∃ archive, t.output.content = r.output.content ++ archive ∧
      Zip.parts? t.output.content r.output.content.size = .ok (Workbook.partsBefore now
        (config.look.styleSheet schema table) (mendSheetName schema.sheetName) ++
          [Workbook.worksheet (mendSheetName schema.sheetName) schema.resolvedWidths
            (config.look.rows schema (config.look.styleSheet schema table) table)]) := by
  obtain ⟨aligned, styles, w, rows, sheet, shows, rowsEq⟩ := h
  have shown := rowsEq []
  subst shown
  rw [conclude, ActionOf.on_bind_ok (tell_on options .writingWorkbook r)] at ran
  obtain ⟨_, u, wrote, told⟩ := ActionOf.through_of_bind ran
  cases told
  obtain ⟨⟨book, sink⟩, written, rfl⟩ := ActionOf.through_of_within wrote
  obtain ⟨archive, content, read⟩ := Workbook.written_reads_back written sheet shows
    (Look.rows_fit config.look _ aligned)
  refine ⟨archive, content, ?_⟩
  rwa [show (r.told options .writingWorkbook).workbook.styles = config.look.styleSheet schema table from styles] at read

/-- From a sound disk the workbook is written to an output that takes everything. -/
theorem conclude_on [LawfulGzip] [LawfulZip] (options : ExportOptions ω) (now : Timestamp)
    {table : List (List CellValue)} {r : Run σ ω} (h : r.workbook.Shown .sound config.look schema table)
    (opened : Sink.Open r.output.content r.output)
    (small : ∀ p ∈ Workbook.partsBefore now (config.look.styleSheet schema table) (mendSheetName schema.sheetName),
      p.content.size ≤ Zip.smallLimit) :
    ∃ book sink, (conclude options now).on r = (.ok (),
      ({ r.told options .writingWorkbook with workbook := book, output := sink } : Run σ ω).told options .completed) := by
  obtain ⟨aligned, styles, w, rows, sheet, shows, rowsEq⟩ := h
  have shown := rowsEq []
  subst shown
  obtain ⟨_, ⟨book, sink⟩, wrote, -⟩ := (Workbook.write_comes now sheet shows (Look.rows_fit config.look _ aligned) opened
    (styles ▸ small)).through fun unsound => unsound rfl
  refine ⟨book, sink, ?_⟩
  rw [conclude, ActionOf.on_bind_ok (tell_on options .writingWorkbook r)]
  have written : (writeOutput now).on (r.told options .writingWorkbook) = (.ok (),
      { r.told options .writingWorkbook with workbook := book, output := sink }) := by
    rw [writeOutput, ActionOf.on_within, ActionOf.on_failingAs,
      show ((r.told options .writingWorkbook).workbook, (r.told options .writingWorkbook).output) =
        (r.workbook, r.output) from rfl, wrote]
    rfl
  rw [ActionOf.on_bind_ok written, tell_on]

end Steps

end Run

/-- From a state on, the open stream of a source hands out items and then ends, whatever it hears of progress
    meanwhile, and nobody asks for the export to stop. -/
def Source.Yields (source : Source σ ω α) (options : ExportOptions ω) (items : Nat → Option α) (s : σ × ω) : Prop :=
  ∃ held : Nat → σ × ω → Prop, held 0 s ∧ ∀ n t, held n t →
    (∀ a, items n = some a → (source.next t).1 = .entity a ∧ held (n + 1) (source.next t).2) ∧
    (items n = none → (source.next t).1 = .finished) ∧
    (∀ p, held n (t.1, options.listen p t.2)) ∧
    options.stopRequested t.2 = false

namespace Run

variable {config : Config} {schema : Schema α} {source : Source σ ω α} {options : ExportOptions ω}

theorem course_held {items : Nat → Option α} {held : Nat → σ × ω → Prop} {s : σ × ω} (first : held 0 s)
    (yields : ∀ n t, held n t →
      (∀ a, items n = some a → (source.next t).1 = .entity a ∧ held (n + 1) (source.next t).2) ∧
      (items n = none → (source.next t).1 = .finished) ∧
      (∀ p, held n (t.1, options.listen p t.2)) ∧ options.stopRequested t.2 = false)
    (batch : Nat) {n : Nat} (there : ∀ i, i < n → ∃ a, items i = some a) :
    held n (course source options batch s n) := by
  induction n with
  | zero => exact first
  | succ n ih =>
      obtain ⟨a, item⟩ := there n (Nat.lt_succ_self n)
      have next := ((yields n _ (ih fun i lt => there i (Nat.lt_succ_of_lt lt))).1 a item).2
      simp only [course]
      split
      · exact (yields (n + 1) _ next).2.2.1 _
      · exact next

/-- A loop over a stream that yields items, with nobody to stop it and a sound disk: either an entity is bad, or all
    become rows. -/
theorem writeEntities_yields [Gzip] [LawfulGzip] (fits : schema.headers.length ≤ maxColumns) {items : Nat → Option α}
    {s : σ × ω} (yields : source.Yields options items s) {output : Sink} {r : Run σ ω}
    (h : At .sound config schema source options s output [] r) {limit : Nat} (below : limit < maxRows) :
    match schema.tableOf 1 (firstItems items limit) with
    | .error halt => ∃ t, (writeEntities config options schema source limit).on r = (.error halt, t)
    | .ok table => ∃ t, (writeEntities config options schema source limit).on r = (.ok (), t) ∧
        t.workbook.Shown .sound config.look schema table ∧ t.output = output := by
  obtain ⟨held, first, yields⟩ := yields
  obtain ⟨entities, taken⟩ : ∃ entities, entities = firstItems items limit := ⟨_, rfl⟩
  have short : entities.length ≤ limit := taken ▸ firstItems_length_le items limit
  have item : ∀ i a, entities[i]? = some a → items i = some a := fun i a inside => firstItems_getElem? (taken ▸ inside)
  have course : ∀ n, n ≤ entities.length → held n (course source options config.flushBatch s n) := fun n le =>
    course_held first yields config.flushBatch fun i lt =>
      ⟨_, item i _ (List.getElem?_eq_getElem (Nat.lt_of_lt_of_le lt le))⟩
  have loop := writeEntities_list fits entities h (by rw [List.length_nil]; omega)
    (fun i a inside => by
      rw [List.length_nil, Nat.zero_add]
      have lt := (List.getElem?_eq_some_iff.mp inside).1
      exact ((yields i _ (course i (Nat.le_of_lt lt))).1 a (item i a inside)).1)
    (fun n _ le stops => by
      rw [List.length_nil, Nat.zero_add] at le
      exact Bool.false_ne_true ((yields n _ (course n le)).2.2.2.symm.trans stops.2))
  rw [List.length_nil, Nat.zero_add] at loop
  obtain ⟨spare, split⟩ := Nat.exists_eq_add_of_le' short
  rw [← taken]
  cases found : schema.tableOf 1 entities with
  | error halt =>
      rw [found] at loop
      obtain ⟨t, ends⟩ := loop
      exact ⟨t, split ▸ ends spare⟩
  | ok table =>
      rw [found] at loop
      obtain ⟨t, ⟨place, _, _, out, shown, _⟩, steps⟩ := loop
      cases spare with
      | zero => exact ⟨t, split ▸ steps 0, shown, out⟩
      | succ spare =>
          have noneLeft : items entities.length = none := by
            rw [taken]
            exact items_firstItems_length (by rw [← taken]; omega)
          rw [List.nil_append, Schema.length_of_tableOf found] at place
          have ended := (yields _ _ (course _ (Nat.le_refl _))).2.1 noneLeft
          rw [← place] at ended
          obtain ⟨next, pulled⟩ : ∃ next, source.next (t.source, t.world) = (.finished, next) := ⟨_, Prod.ext ended rfl⟩
          exact ⟨{ t with source := next.1, world := next.2 },
            split ▸ (steps (spare + 1)).trans (writeEntities_finished config options schema spare pulled), shown, out⟩

end Run

/-- A feed of entities yields them, whatever reading it does to the world. -/
theorem Feed.plainSource_yields [RegexEngine] (name : String) {feed : Feed ω α} {items : Nat → Option α}
    (same : ∀ n, feed.item n = (items n).map .ok) (quiet : ∀ w, options.stopRequested w = false) (w : ω) :
    (Feed.plainSource name (.ok feed)).Yields options items (some (feed, 0), w) := by
  refine ⟨fun n t => t.1 = some (feed, n), rfl, ?_⟩
  rintro n ⟨_, w⟩ rfl
  refine ⟨fun a item => ?_, fun item => ?_, fun _ => rfl, quiet w⟩
  · have ok : feed.item n = some (.ok a) := by rw [same, item]; rfl
    simp [plainSource, nextPlain, advance, ok]
  · have noneLeft : feed.item n = none := by rw [same, item]; rfl
    simp [plainSource, nextPlain, advance, noneLeft]

section Reference

variable [Gzip] [Zip] [LawfulGzip] [LawfulZip]

end Reference

def narrow : Config := { window := 1, flushBatch := 1, maxRows := some 2 }

def names : Schema String := ⟨"S", "Text", ["Name"], [], [], fun s => .ok [.text s]⟩

/-- An endless feed that begins with a text that would be taken for a formula. -/
def endlessNames : Feed Unit String := .endless (fun n => if n = 0 then "=a" else "b") 0

theorem partsBefore_small {styles : StyleSheet} (formats : (Xml.render styles.tokens).toUTF8.size ≤ Zip.smallLimit) :
    ∀ p ∈ Workbook.partsBefore midnight styles "S", p.content.size ≤ Zip.smallLimit := by
  have fixed : ∀ text ∈ [WorkbookPart.contentTypes, WorkbookPart.rootRelations, WorkbookPart.coreProperties midnight,
      WorkbookPart.applicationProperties, Xml.render (WorkbookPart.workbookTokens "S"), WorkbookPart.workbookRelations],
      text.toUTF8.size ≤ Zip.smallLimit := by decide +kernel
  intro p inside
  simp only [Workbook.partsBefore, List.mem_cons, List.not_mem_nil, or_false] at inside
  rcases inside with rfl | rfl | rfl | rfl | rfl | rfl | rfl
  case inr.inr.inr.inr.inr.inr => exact formats
  all_goals exact fixed _ (by simp)

end SheetExport
