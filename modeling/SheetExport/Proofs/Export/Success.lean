import SheetExport.Proofs.Export.Whole

/-! # Exports that succeed

An export that succeeded took entities from its source along its course, until the source was at its end or the limit
was reached, found nothing wrong with any of them, and wrote a workbook with a row for each. Nothing needs to be known
of the source, of the disk, of the output or of who listens: each step of the export came through, and says what it did.
-/

namespace SheetExport

namespace Run

variable {α σ ω : Type}

/-- The entities that an export takes from its source, one after another along its course, up to a limit. -/
structure Taken (source : Source σ ω α) (options : ExportOptions ω) (batch : Nat) (s : σ × ω) (limit : Nat)
    (first : Nat) (entities : List α) : Prop where
  each : ∀ i a, entities[i]? = some a → (source.next (course source options batch s (first + i))).1 = .entity a
  le : entities.length ≤ limit
  all : entities.length = limit ∨ (source.next (course source options batch s (first + entities.length))).1 = .finished

variable [Gzip] {config : Config} {schema : Schema α} {source : Source σ ω α} {options : ExportOptions ω}
  {disk : Disk} {s : σ × ω} {output : Sink} {table : List (List CellValue)} {r t : Run σ ω}

/-! ## The header -/

theorem refusal?_of_wide {w : Window} {index : Nat} {cells : List Cell} (below : index < maxRows)
    (next : w.rowCount ≤ index) (wide : maxColumns < cells.length) :
    w.refusal? index cells = some (.tooManyColumns cells.length) := by
  rw [Window.refusal?, if_neg (Nat.not_le.mpr below), if_neg (Nat.not_lt.mpr next), if_pos wide]

/-- A header that was written is there, on a disk that has room for a file, and fits into a sheet. -/
theorem writeHeader_through [LawfulGzip] {capacity : Nat} {compressed : Bool} {spillDisk : Except IoFault Disk}
    {book : Workbook} (ran : (writeHeader config schema).on (.create capacity compressed spillDisk) = (.ok (), book)) :
    ∃ disk, spillDisk = .ok disk ∧ schema.headers.length ≤ maxColumns ∧ book.Shown disk config.look schema [] := by
  let bare : Workbook := .create capacity compressed spillDisk
  obtain ⟨format, formatted, -⟩ := headerFormat_on config bare
  let styled : Workbook := { bare with styles := bare.styles.registerAll config.look.headerStyles }
  have placed := ran
  rw [writeHeader_eq, ActionOf.on_bind_ok formatted] at placed
  cases there : spillDisk with
  | error fault =>
      have uncreated := Workbook.createSheet_on styled rfl (mendSheetName schema.sheetName)
      rw [show styled.spillDisk = .error fault from there] at uncreated
      rw [placeHeader, ActionOf.on_bind_error uncreated] at placed
      cases placed
  | ok disk =>
      have fits : schema.headers.length ≤ maxColumns := by
        refine Nat.le_of_not_lt fun wide => ?_
        let cells : List Cell := schema.headers.map fun h => ⟨.text (safeText config h), format⟩
        have refused : (bareSheet schema capacity compressed disk).refusal? 0 cells =
            some (.tooManyColumns cells.length) :=
          refusal?_of_wide (by decide) (Nat.le_refl 0) (by rwa [List.length_map])
        rw [placeHeader_eq config schema format styled rfl there,
          Workbook.onSheet_on rfl (Window.append_refused refused)] at placed
        cases placed
      subst there
      exact ⟨disk, rfl, fits, (writeHeader_comes config schema fits capacity compressed disk).of_through ran⟩

/-! ## The beginning -/

section Beginning

variable [Zip] (config : Config) (schema : Schema α) (source : Source σ ω α) (options : ExportOptions ω)
  (spillDisk : Except IoFault Disk) (filter : Option Filter) (now : Timestamp) (start : σ × ω) (output : Sink)

/-- How an export gets to its loop, once it has told that it starts: its header is refused, its source does not open a
    stream, or it stands at the beginning of its course. -/
inductive Beginning : Except Halt Unit × Run σ ω → Prop where
  | refused {e : ExportError} {r : Run σ ω} (place : (r.source, r.world) = start) (rows : r.rows = 0)
      (untouched : r.output = output) (events : r.events = [⟨.starting, 0, 0⟩]) : Beginning (.error (.error e), r)
  | unopened {e : ExportError} {r : Run σ ω} {s : σ × ω} (failed : (source.opening filter).on start = (.error e, s))
      (place : (r.source, r.world) = s) (rows : r.rows = 0) (untouched : r.output = output)
      (events : r.events = [⟨.starting, 0, 0⟩]) : Beginning (.error (.error e), r)
  | begun {disk : Disk} {r : Run σ ω} {s : σ × ω} (room : spillDisk = .ok disk)
      (fits : schema.headers.length ≤ maxColumns) (opened : (source.opening filter).on start = (.ok (), s))
      (there : At disk config schema source options s output [] r) (events : r.events = [⟨.starting, 0, 0⟩]) :
      Beginning ((do
        writeEntities config options schema source (rowLimit config)
        conclude options now : RunStep σ ω Unit).on r)

end Beginning

theorem exportRows_beginning [Zip] [LawfulGzip] (config : Config) (options : ExportOptions ω) (schema : Schema α)
    (source : Source σ ω α) (filter : Option Filter) (now : Timestamp) (own : σ) (world : ω) (output : Sink)
    (spillDisk : Except IoFault Disk) :
    Beginning config schema source options spillDisk filter now (own, options.listen ⟨.starting, 0, 0⟩ world) output
      ((exportRows config options schema source filter now).on (start config own world output spillDisk)) := by
  let started := (start config own world output spillDisk).told options .starting
  cases header : (writeHeader config schema).on started.workbook with
  | mk outcome book =>
      have headed := onWorkbook_on (r := started) header
      cases outcome with
      | error e =>
          rw [exportRows_eq, ActionOf.on_bind_ok (tell_on options .starting _), ActionOf.on_bind_error headed]
          exact .refused rfl rfl rfl rfl
      | ok =>
          cases opens : (source.opening filter).on (own, options.listen ⟨.starting, 0, 0⟩ world) with
          | mk outcome s =>
              cases outcome with
              | error e =>
                  have failed := onSource_on (r := { started with workbook := book }) opens
                  rw [exportRows_eq, ActionOf.on_bind_ok (tell_on options .starting _), ActionOf.on_bind_ok headed,
                    ActionOf.on_bind_error failed]
                  exact .unopened opens rfl rfl rfl rfl
              | ok =>
                  obtain ⟨disk, room, fits, shown⟩ := writeHeader_through header
                  obtain ⟨r, there, events, begun⟩ := exportRows_begun_telling now header shown opens
                  rw [begun]
                  exact .begun room fits opens there events

/-! ## The loop -/

/-- A loop that came through wrote a row for each of the entities that it took. -/
theorem writeEntities_through [LawfulGzip] (fits : schema.headers.length ≤ maxColumns)
    (h : At disk config schema source options s output table r) {n : Nat} (below : table.length + n < maxRows)
    (ran : (writeEntities config options schema source n).on r = (.ok (), t)) :
    ∃ entities more, Taken source options config.flushBatch s n table.length entities ∧
      schema.tableOf (table.length + 1) entities = .ok more ∧
      t.workbook.Shown disk config.look schema (table ++ more) ∧ t.output = output := by
  induction n generalizing table r with
  | zero =>
      cases ran
      exact ⟨[], [], ⟨fun i a inside => by simp at inside, Nat.le_refl 0, .inl rfl⟩, rfl, by simpa using h.shown,
        h.output⟩
  | succ n ih =>
      cases pull : source.next (r.source, r.world) with
      | mk pulled next =>
          cases pulled with
          | finished =>
              rw [writeEntities_finished config options schema n pull] at ran
              cases ran
              refine ⟨[], [], ⟨fun i a inside => by simp at inside, Nat.zero_le _, .inr ?_⟩, rfl,
                by simpa using h.shown, h.output⟩
              rw [List.length_nil, Nat.add_zero, ← h.place, pull]
          | fault e =>
              rw [writeEntities_fault config options schema n pull] at ran
              cases ran
          | entity a =>
              rw [h.place] at pull
              have step := writeEntities_entity fits h (by omega) (congrArg Prod.fst pull)
              cases values : schema.valuesAt (table.length + 1) a with
              | error halt =>
                  rw [values] at step
                  obtain ⟨_, _, ends⟩ := step
                  rw [ends n] at ran
                  cases ran
              | ok row =>
                  rw [values] at step
                  obtain ⟨u, there, stops, goesOn⟩ | ⟨-, fault, u, -, failed⟩ := step
                  case inr =>
                    rw [failed n] at ran
                    cases ran
                  by_cases stop : StopsAt source options config.flushBatch s (table.length + 1)
                  · rw [stops stop n] at ran
                    cases ran
                  · rw [goesOn stop n] at ran
                    have length : (table ++ [row]).length = table.length + 1 := by simp
                    obtain ⟨entities, more, taken, found, shown, out⟩ := ih there (by rw [length]; omega) ran
                    rw [length] at taken found
                    refine ⟨a :: entities, row :: more, ⟨fun i b inside => ?_, Nat.succ_le_succ taken.le, ?_⟩, ?_,
                      by simpa using shown, out⟩
                    · cases i with
                      | zero =>
                          obtain rfl : a = b := by simpa using inside
                          rw [Nat.add_zero, pull]
                      | succ i =>
                          rw [Nat.add_comm i, ← Nat.add_assoc]
                          exact taken.each i b (by simpa using inside)
                    · rw [List.length_cons, Nat.add_comm entities.length, ← Nat.add_assoc]
                      exact taken.all.imp (fun full => by omega) fun ended => ended
                    · rw [Schema.tableOf_cons, values]
                      simp only [found]
                      rfl

end Run

/-- What an export that succeeded took and wrote: the archive behind what the output held before has the workbook of
    the entities in it. -/
theorem exportTo_succeeded [Gzip] [Zip] [LawfulGzip] [LawfulZip] {α σ ω : Type} {config : Config}
    {options : ExportOptions ω} {schema : Schema α} {source : Source σ ω α} {filter : Option Filter} {now : Timestamp}
    {own : σ} {world : ω} {output : Sink} {spillDisk : Except IoFault Disk}
    (succeeded : (exportTo config options schema source filter now own world output spillDisk).1 = .ok ()) :
    let written := (exportTo config options schema source filter now own world output spillDisk).2.output.content
    ∃ s entities table archive,
      (source.opening filter).on (own, options.listen ⟨.starting, 0, 0⟩ world) = (.ok (), s) ∧
      Run.Taken source options config.flushBatch s (Run.rowLimit config) 0 entities ∧
      schema.tableOf 1 entities = .ok table ∧ written = output.content ++ archive ∧
      Zip.parts? written output.content.size = .ok (Workbook.partsBefore now (config.look.styleSheet schema table)
        (mendSheetName schema.sheetName) ++ [Workbook.worksheet (mendSheetName schema.sheetName)
          schema.resolvedWidths (config.look.rows schema (config.look.styleSheet schema table) table)]) := by
  rw [exportTo] at succeeded ⊢
  cases ran : (Run.exportRows config options schema source filter now).on
      (.start config own world output spillDisk) with
  | mk outcome t =>
      rw [ran] at succeeded
      obtain rfl : outcome = .ok () := succeeded
      have beginning := Run.exportRows_beginning config options schema source filter now own world output spillDisk
      generalize (Run.exportRows config options schema source filter now).on _ = ended at beginning ran
      cases beginning with
      | refused => cases ran
      | unopened => cases ran
      | begun room fits opens there =>
          obtain ⟨_, u, looped, concluded⟩ := ActionOf.through_of_bind ran
          obtain ⟨entities, table, taken, found, shown, rfl⟩ := Run.writeEntities_through fits there
            (by rw [List.length_nil, Nat.zero_add]; exact Run.rowLimit_lt config) looped
          obtain ⟨archive, content, read⟩ := Run.conclude_through shown concluded
          exact ⟨_, entities, table, archive, opens, taken, found, content, read⟩

/-- An export that nobody stops succeeds with entities that are all good, with a sound disk and to an output that takes
    everything, if the parts of the archive besides the sheet are small. -/
theorem exportTo_yields [Gzip] [Zip] [LawfulGzip] [LawfulZip] {α σ ω : Type} (config : Config)
    (options : ExportOptions ω) (schema : Schema α) (source : Source σ ω α) (filter : Option Filter) (now : Timestamp)
    (own : σ) (world : ω) (output : Sink) {items : Nat → Option α} {table : List (List CellValue)}
    (fits : schema.headers.length ≤ maxColumns) {s : σ × ω}
    (opens : (source.opening filter).on (own, options.listen ⟨.starting, 0, 0⟩ world) = (.ok (), s))
    (yields : source.Yields options items s) (takesAll : output.limit = none ∧ output.refusesFlush = false)
    (found : schema.tableOf 1 (firstItems items (Run.rowLimit config)) = .ok table)
    (small : ∀ p ∈ Workbook.partsBefore now (config.look.styleSheet schema table) (mendSheetName schema.sheetName),
      p.content.size ≤ Zip.smallLimit) :
    let run := exportTo config options schema source filter now own world output
    run.1 = .ok () ∧ (∃ archive, run.2.output.content = output.content ++ archive) ∧
      Zip.parts? run.2.output.content output.content.size = .ok (Workbook.partsBefore now
        (config.look.styleSheet schema table) (mendSheetName schema.sheetName) ++
          [Workbook.worksheet (mendSheetName schema.sheetName) schema.resolvedWidths
            (config.look.rows schema (config.look.styleSheet schema table) table)]) := by
  obtain ⟨r, there, begun⟩ := Run.exportRows_begun config options schema source filter now own world output fits opens
  have loop := Run.writeEntities_yields fits yields there (Run.rowLimit_lt config)
  rw [found] at loop
  obtain ⟨t, ran, shown, rfl⟩ := loop
  obtain ⟨book, sink, ended⟩ := Run.conclude_on options now shown ⟨takesAll.1, takesAll.2, rfl⟩ small
  obtain ⟨archive, content, read⟩ := Run.conclude_through shown ended
  rw [ActionOf.on_bind_ok ran, ended] at begun
  simp only [exportTo, begun]
  exact ⟨trivial, ⟨archive, content⟩, read⟩

end SheetExport
