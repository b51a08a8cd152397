import SheetExport.Proofs.Export.Steps

/-! # The loop over a stream

`course` is what the source and the world around it come to as an export takes one entity after another and ends
a batch now and then, as long as nobody stops it. Whether an export is stopped is seen in its course alone, and
until then, or until its disk fails, the run itself keeps to the course: this is one step lemma and, from it, one lemma
about any number of entities.
-/

namespace SheetExport.Run

variable {α σ ω : Type}

/-- The source and the world after `n` entities of an export that nobody stops. -/
def course (source : Source σ ω α) (options : ExportOptions ω) (batch : Nat) (s : σ × ω) : Nat → σ × ω
  | 0 => s
  | n + 1 =>
      let t := (source.next (course source options batch s n)).2
      if (n + 1) % batch = 0 then (t.1, options.listen ⟨.flushedBatch, n + 1, (n + 1) / batch⟩ t.2) else t

theorem course_succ {source : Source σ ω α} {options : ExportOptions ω} {s : σ × ω} {n : Nat} {a : α} {pull : σ × ω}
    {batch : Nat} (next : source.next (course source options batch s n) = (.entity a, pull)) :
    course source options batch s (n + 1) = if (n + 1) % batch = 0 then
      (pull.1, options.listen ⟨.flushedBatch, n + 1, (n + 1) / batch⟩ pull.2) else pull := by
  rw [course, next]

/-- The export is stopped after `n` entities if it gets there. -/
def StopsAt (source : Source σ ω α) (options : ExportOptions ω) (batch : Nat) (s : σ × ω) (n : Nat) : Prop :=
  n % batch = 0 ∧ options.stopRequested (course source options batch s n).2 = true

variable [Gzip]

def told (options : ExportOptions ω) (phase : Phase) (r : Run σ ω) : Run σ ω :=
  { r with world := options.listen ⟨phase, r.rows, r.batches⟩ r.world,
           events := r.events ++ [⟨phase, r.rows, r.batches⟩] }

theorem tell_on (options : ExportOptions ω) (phase : Phase) (r : Run σ ω) :
    (tell options phase : RunStep σ ω Unit).on r = (.ok (), r.told options phase) := rfl

theorem readSource_on {β : Type} {a : StateM (σ × ω) β} {r : Run σ ω} {b : β} {s : σ × ω}
    (ran : a (r.source, r.world) = (b, s)) :
    (readSource a).on r = (.ok b, { r with source := s.1, world := s.2 }) := by
  rw [readSource, onSource, ActionOf.on_within, ActionOf.on_failingAs, ActionOf.on_of, ran]
  rfl

section Steps

variable {disk : Disk} {config : Config} {schema : Schema α} {source : Source σ ω α} {options : ExportOptions ω}
  {s : σ × ω} {output : Sink} {table : List (List CellValue)} {r : Run σ ω}

/-- A run that has written the rows of a table and keeps to the course. -/
structure At (disk : Disk) (config : Config) (schema : Schema α) (source : Source σ ω α) (options : ExportOptions ω)
    (s : σ × ω) (output : Sink) (table : List (List CellValue)) (r : Run σ ω) : Prop where
  place : (r.source, r.world) = course source options config.flushBatch s table.length
  rows : r.rows = table.length
  batches : r.batches = table.length / config.flushBatch
  output : r.output = output
  shown : r.workbook.Shown disk config.look schema table
  agrees : r.formats.Agrees config.borderData r.workbook.styles

/-- A run that was broken off by its disk at a row: while it placed the row, or else while it ended the batch of it. -/
structure Spoilt (source : Source σ ω α) (options : ExportOptions ω) (batch : Nat) (s : σ × ω) (n : Nat)
    (r t : Run σ ω) : Prop where
  place : (t.source, t.world) = (source.next (course source options batch s n)).2
  rows : t.rows = n ∨ t.rows = n + 1 ∧ (n + 1) % batch = 0
  output : t.output = r.output
  events : t.events = r.events

/-- A batch ends, once the rows are paged out, with its event, and the export with another if it is to stop then. -/
theorem endBatch_paged (options : ExportOptions ω) {book : Workbook}
    (paged : (Workbook.onSheet (Window.pageOut 0)).on r.workbook = (.ok (), book)) :
    let t : Run σ ω := { r with workbook := book, batches := r.batches + 1 }.told options .flushedBatch
    (endBatch options).on r =
      if options.stopRequested t.world then (.error (.error .cancelled), t.told options .cancelled)
      else (.ok (), t) := by
  rw [endBatch, ActionOf.on_bind_ok (onWorkbook_on paged), ActionOf.on_modify_bind,
    ActionOf.on_bind_ok (tell_on options .flushedBatch _), ActionOf.on_get_bind]
  split
  · rename_i stop
    exact (if_pos stop).symm
  · rename_i goOn
    exact (if_neg goOn).symm

theorem endBatch_on [LawfulGzip] (options : ExportOptions ω) (shown : r.workbook.Shown disk config.look schema table) :
    (∃ book, book.Shown disk config.look schema table ∧ book.styles = r.workbook.styles ∧
      let t : Run σ ω := { r with workbook := book, batches := r.batches + 1 }.told options .flushedBatch
      (endBatch options).on r =
        if options.stopRequested t.world then (.error (.error .cancelled), t.told options .cancelled)
        else (.ok (), t)) ∨
      disk ≠ .sound ∧ ∃ fault book,
        (endBatch options).on r = (.error (.error (.io fault)), { r with workbook := book }) := by
  obtain ⟨aligned, styles, w, rows, sheet, shows, rowsEq⟩ := shown
  obtain ⟨_, _, paged, v, shows, rfl⟩ | ⟨unsound, fault, book, failed⟩ :=
    Workbook.onSheet_comes _ sheet (Window.pageOut_shows 0 shows)
  · exact .inl ⟨{ r.workbook with sheet := some v }, ⟨aligned, styles, v, rows, rfl, shows, rowsEq⟩, rfl,
      endBatch_paged options paged⟩
  · refine .inr ⟨unsound, fault, book, ?_⟩
    rw [endBatch]
    exact ActionOf.on_bind_error (onWorkbook_on failed) _

/-- A run that has placed the row of an entity behind the rows of a table, and has not ended the batch of it. -/
structure Placed (disk : Disk) (config : Config) (schema : Schema α) (source : Source σ ω α) (options : ExportOptions ω)
    (s : σ × ω) (output : Sink) (table : List (List CellValue)) (row : List CellValue) (r : Run σ ω) : Prop where
  place : (r.source, r.world) = (source.next (course source options config.flushBatch s table.length)).2
  rows : r.rows = table.length + 1
  batches : r.batches = table.length / config.flushBatch
  output : r.output = output
  shown : r.workbook.Shown disk config.look schema (table ++ [row])
  agrees : r.formats.Agrees config.borderData r.workbook.styles

/-- What the loop does once it has placed a row. -/
def goOn (config : Config) (options : ExportOptions ω) (schema : Schema α) (source : Source σ ω α) (n : Nat) :
    RunStep σ ω Unit := do
  if (← get).rows % config.flushBatch = 0 then endBatch options
  writeEntities config options schema source n

theorem writeEntities_pulled (config : Config) (options : ExportOptions ω) (schema : Schema α) {a : α}
    {pull : σ × ω} (next : source.next (r.source, r.world) = (.entity a, pull)) (n : Nat) :
    (writeEntities config options schema source (n + 1)).on r =
      (do writeEntity config schema a
          goOn config options schema source n : RunStep σ ω Unit).on
        { r with source := pull.1, world := pull.2 } := by
  rw [writeEntities, ActionOf.on_bind_ok (readSource_on next)]
  rfl

/-- The row of an entity is placed, unless something is wrong with the entity or the disk fails. -/
theorem writeEntities_placed [LawfulGzip] (fits : schema.headers.length ≤ maxColumns)
    (h : At disk config schema source options s output table r) (below : table.length + 1 < maxRows) {a : α}
    (pulled : (source.next (course source options config.flushBatch s table.length)).1 = .entity a) :
    match schema.valuesAt (table.length + 1) a with
    | .error halt => ∃ book memo, ∀ n, (writeEntities config options schema source (n + 1)).on r = (.error halt,
        let place := (source.next (course source options config.flushBatch s table.length)).2
        { r with source := place.1, world := place.2, workbook := book, formats := memo })
    | .ok values =>
        (∃ t, Placed disk config schema source options s output table values t ∧ t.events = r.events ∧
          ∀ n, (writeEntities config options schema source (n + 1)).on r =
            (goOn config options schema source n).on t) ∨
        disk ≠ .sound ∧ ∃ fault t, Spoilt source options config.flushBatch s table.length r t ∧
          ∀ n, (writeEntities config options schema source (n + 1)).on r = (.error (.error (.io fault)), t) := by
  obtain ⟨pull, next⟩ : ∃ pull,
      source.next (course source options config.flushBatch s table.length) = (.entity a, pull) :=
    ⟨_, Prod.ext pulled rfl⟩
  have step := writeEntities_pulled config options schema (h.place ▸ next)
  have written := writeEntity_on config schema fits (r := { r with source := pull.1, world := pull.2 }) h.shown h.agrees
    h.rows (h.rows ▸ below) a
  rw [next]
  cases values : schema.valuesAt (table.length + 1) a with
  | error halt =>
      simp only [h.rows ▸ values] at written
      obtain ⟨book, memo, wrote⟩ := written
      exact ⟨book, memo, fun n => (step n).trans (ActionOf.on_bind_error wrote _)⟩
  | ok row =>
      simp only [h.rows ▸ values] at written
      obtain ⟨book, memo, wrote, shown, agrees⟩ | ⟨unsound, fault, book, memo, failed⟩ := written
      · let t : Run σ ω :=
          { r with source := pull.1, world := pull.2, workbook := book, formats := memo, rows := r.rows + 1 }
        have placed : Placed disk config schema source options s output table row t :=
          ⟨(congrArg Prod.snd next).symm, congrArg (· + 1) h.rows, h.batches, h.output, shown, agrees⟩
        exact .inl ⟨t, placed, rfl, fun n => (step n).trans (ActionOf.on_bind_ok wrote _)⟩
      · let t : Run σ ω := { r with source := pull.1, world := pull.2, workbook := book, formats := memo }
        have spoilt : Spoilt source options config.flushBatch s table.length r t :=
          ⟨(congrArg Prod.snd next).symm, .inl h.rows, rfl, rfl⟩
        exact .inr ⟨unsound, fault, t, spoilt, fun n => (step n).trans (ActionOf.on_bind_error failed _)⟩

/-- From a row that is placed the loop goes on along the course, after the end of the batch if the row is the last of one.
    There the export may be stopped, or the disk may fail. -/
theorem Placed.goesOn [LawfulGzip] {row : List CellValue}
    (h : Placed disk config schema source options s output table row r) :
    (∃ t, At disk config schema source options s output (table ++ [row]) t ∧
      (StopsAt source options config.flushBatch s (table.length + 1) →
        ∀ n, (goOn config options schema source n).on r =
          (.error (.error .cancelled), t.told options .cancelled)) ∧
      (¬StopsAt source options config.flushBatch s (table.length + 1) →
        ∀ n, (goOn config options schema source n).on r = (writeEntities config options schema source n).on t)) ∨
      disk ≠ .sound ∧ (table.length + 1) % config.flushBatch = 0 ∧ ∃ fault book,
        ∀ n, (goOn config options schema source n).on r =
          (.error (.error (.io fault)), { r with workbook := book }) := by
  have length : (table ++ [row]).length = table.length + 1 := by simp
  by_cases full : (table.length + 1) % config.flushBatch = 0
  · have going (n : Nat) : (goOn config options schema source n).on r =
        (do endBatch options
            writeEntities config options schema source n : RunStep σ ω Unit).on r := by
      rw [goOn, ActionOf.on_get_bind, h.rows, if_pos full]
    have batches : r.batches + 1 = (table.length + 1) / config.flushBatch := by
      rw [h.batches, Nat.succ_div_of_mod_eq_zero full]
    have place : (r.source, options.listen ⟨.flushedBatch, r.rows, r.batches + 1⟩ r.world) =
        course source options config.flushBatch s (table.length + 1) := by
      rw [course, if_pos full, ← h.place, h.rows, batches]
    obtain ⟨book, shown, styles, ended⟩ | ⟨unsound, fault, book, failed⟩ := endBatch_on options h.shown
    · let t : Run σ ω := { r with workbook := book, batches := r.batches + 1 }.told options .flushedBatch
      refine .inl ⟨t, ⟨length.symm ▸ place, length.symm ▸ h.rows, length.symm ▸ batches, h.output, shown,
        styles ▸ h.agrees⟩, fun stops n => ?_, fun goesOn n => ?_⟩
      · rw [StopsAt, ← place] at stops
        exact (going n).trans (ActionOf.on_bind_error (ended.trans (if_pos stops.2)) _)
      · rw [StopsAt, ← place, not_and] at goesOn
        exact (going n).trans (ActionOf.on_bind_ok (ended.trans (if_neg (goesOn full))) _)
    · exact .inr ⟨unsound, full, fault, book, fun n => (going n).trans (ActionOf.on_bind_error failed _)⟩
  · have place : (r.source, r.world) = course source options config.flushBatch s (table.length + 1) := by
      rw [course, if_neg full, h.place]
    refine .inl ⟨r, ⟨length.symm ▸ place, length.symm ▸ h.rows, ?_, h.output, h.shown, h.agrees⟩,
      fun stops => absurd stops.1 full, fun _ n => ?_⟩
    · rw [h.batches, length, Nat.succ_div_of_mod_ne_zero full]
    · rw [goOn, ActionOf.on_get_bind, h.rows, if_neg full]

/-- One entity: what is wrong with it ends the loop; otherwise it becomes a row, and the loop goes on unless the
    export is stopped, or the disk fails. -/
theorem writeEntities_entity [LawfulGzip] (fits : schema.headers.length ≤ maxColumns)
    (h : At disk config schema source options s output table r) (below : table.length + 1 < maxRows) {a : α}
    (pulled : (source.next (course source options config.flushBatch s table.length)).1 = .entity a) :
    match schema.valuesAt (table.length + 1) a with
    | .error halt => ∃ book memo, ∀ n, (writeEntities config options schema source (n + 1)).on r = (.error halt,
        let place := (source.next (course source options config.flushBatch s table.length)).2
        { r with source := place.1, world := place.2, workbook := book, formats := memo })
    | .ok values =>
        (∃ t, At disk config schema source options s output (table ++ [values]) t ∧
          (StopsAt source options config.flushBatch s (table.length + 1) →
            ∀ n, (writeEntities config options schema source (n + 1)).on r =
              (.error (.error .cancelled), t.told options .cancelled)) ∧
          (¬StopsAt source options config.flushBatch s (table.length + 1) →
            ∀ n, (writeEntities config options schema source (n + 1)).on r =
              (writeEntities config options schema source n).on t)) ∨
        disk ≠ .sound ∧ ∃ fault t, Spoilt source options config.flushBatch s table.length r t ∧
          ∀ n, (writeEntities config options schema source (n + 1)).on r = (.error (.error (.io fault)), t) := by
  have placed := writeEntities_placed fits h below pulled
  cases values : schema.valuesAt (table.length + 1) a with
  | error halt =>
      rw [values] at placed
      exact placed
  | ok row =>
      rw [values] at placed
      obtain ⟨t, placed, events, step⟩ | failed := placed
      · obtain ⟨u, there, stops, goesOn⟩ | ⟨unsound, full, fault, book, failed⟩ := placed.goesOn
        · exact .inl ⟨u, there, fun stop n => (step n).trans (stops stop n),
            fun going n => (step n).trans (goesOn going n)⟩
        · exact .inr ⟨unsound, fault, { t with workbook := book },
            ⟨placed.place, .inr ⟨placed.rows, full⟩, placed.output.trans h.output.symm, events⟩,
            fun n => (step n).trans (failed n)⟩
      · exact .inr failed

/-- Any number of entities on a sound disk: either all of them become rows, or the first that is bad ends the loop. -/
theorem writeEntities_list [LawfulGzip] (fits : schema.headers.length ≤ maxColumns) (entities : List α)
    (h : At .sound config schema source options s output table r) (below : table.length + entities.length < maxRows)
    (pulled : ∀ i a, entities[i]? = some a →
      (source.next (course source options config.flushBatch s (table.length + i))).1 = .entity a)
    (goesOn : ∀ n, table.length < n → n ≤ table.length + entities.length →
      ¬StopsAt source options config.flushBatch s n) :
    match schema.tableOf (table.length + 1) entities with
    | .error halt => ∃ t, ∀ n,
        (writeEntities config options schema source (n + entities.length)).on r = (.error halt, t)
    | .ok more => ∃ t, At .sound config schema source options s output (table ++ more) t ∧ ∀ n,
        (writeEntities config options schema source (n + entities.length)).on r =
          (writeEntities config options schema source n).on t := by
  induction entities generalizing table r with
  | nil => exact ⟨r, by simpa using h, fun _ => rfl⟩
  | cons a entities ih =>
      rw [List.length_cons] at below goesOn
      have first := writeEntities_entity fits h (by omega) (pulled 0 a rfl)
      rw [Schema.tableOf_cons]
      cases values : schema.valuesAt (table.length + 1) a with
      | error halt =>
          rw [values] at first
          obtain ⟨_, _, ends⟩ := first
          exact ⟨_, fun n => ends (n + entities.length)⟩
      | ok values' =>
          rw [values] at first
          obtain ⟨t, h, -, step⟩ := first.resolve_right fun failed => failed.1 rfl
          have length : (table ++ [values']).length = table.length + 1 := by simp
          have rest := ih h (by rw [length]; omega)
            (fun i b inside => by rw [length, Nat.add_assoc, Nat.add_comm 1]; exact pulled (i + 1) b inside)
            (fun n lt le => goesOn n (by omega) (by omega))
          have step := step (goesOn (table.length + 1) (by omega) (by omega))
          rw [length] at rest
          cases later : schema.tableOf (table.length + 1 + 1) entities with
          | error halt =>
              rw [later] at rest
              obtain ⟨u, ends⟩ := rest
              exact ⟨u, fun n => (step (n + entities.length)).trans (ends n)⟩
          | ok more =>
              rw [later] at rest
              obtain ⟨u, h, steps⟩ := rest
              exact ⟨u, by rwa [List.append_assoc] at h, fun n => (step (n + entities.length)).trans (steps n)⟩

end Steps

end SheetExport.Run
