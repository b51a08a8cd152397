import SheetExport.Proofs.Export.Whole

/-! # What an export tells of its progress

An export tells that it starts, then of each batch, and then either of its end or, after a batch, that it was
cancelled. What becomes of the rows and of the workbook plays no part in this but that either may break it off.
-/

namespace SheetExport

namespace Run

variable {α σ ω : Type} {config : Config} {schema : Schema α} {source : Source σ ω α} {options : ExportOptions ω}
  {batch n limit : Nat} {s : σ × ω}

/-! ## The events -/

/-- What is told of the first batches. -/
def flushes (batch n : Nat) : List Progress := (List.range n).map fun k => ⟨.flushedBatch, (k + 1) * batch, k + 1⟩

theorem flushes_succ (batch n : Nat) :
    flushes batch (n + 1) = flushes batch n ++ [⟨.flushedBatch, (n + 1) * batch, n + 1⟩] := by
  rw [flushes, List.range_succ, List.map_append]
  rfl

theorem mem_flushes {p : Progress} :
    p ∈ flushes batch n ↔ ∃ k, k < n ∧ ⟨.flushedBatch, (k + 1) * batch, k + 1⟩ = p := by
  simp [flushes]

/-- What is told does not go back when it ends with events that all tell the same. -/
theorem sorted_of_same {rows : Nat} {rest : List Progress} (same : ∀ p ∈ rest, p.rows = rows ∧ p.batches = n)
    (enough : n * batch ≤ rows) : (⟨.starting, 0, 0⟩ :: flushes batch n ++ rest).Pairwise
      fun p q => p.rows ≤ q.rows ∧ p.batches ≤ q.batches := by
  rw [List.cons_append, List.pairwise_cons, List.pairwise_append]
  refine ⟨fun q _ => ⟨Nat.zero_le _, Nat.zero_le _⟩, ?_, ?_, ?_⟩
  · rw [flushes, List.pairwise_map]
    refine List.pairwise_lt_range.imp fun lt => ?_
    exact ⟨Nat.mul_le_mul_right batch (by omega), by simp only; omega⟩
  · refine List.pairwise_of_forall_mem_list fun p first q second => ?_
    rw [(same p first).1, (same p first).2, (same q second).1, (same q second).2]
    exact ⟨Nat.le_refl _, Nat.le_refl _⟩
  · intro p flush q last
    obtain ⟨k, lt, rfl⟩ := mem_flushes.mp flush
    rw [(same q last).1, (same q last).2]
    exact ⟨Nat.le_trans (Nat.mul_le_mul_right batch lt) enough, lt⟩

/-- The source hands out a number of entities on its course, and nobody stops the export until then. -/
def GoesOn (source : Source σ ω α) (options : ExportOptions ω) (batch : Nat) (s : σ × ω) (n : Nat) : Prop :=
  ∀ i, i < n → (∃ a, (source.next (course source options batch s i)).1 = .entity a) ∧
    ¬StopsAt source options batch s (i + 1)

theorem GoesOn.zero (source : Source σ ω α) (options : ExportOptions ω) (batch : Nat) (s : σ × ω) :
    GoesOn source options batch s 0 := fun _ lt => absurd lt (Nat.not_lt_zero _)

/-- Nobody has asked an export that goes on to stop, at the end of any batch. -/
theorem GoesOn.unasked (goesOn : GoesOn source options batch s n) (positive : 0 < batch) {m : Nat} (first : 0 < m)
    (le : m * batch ≤ n) : ¬options.stopRequested (course source options batch s (m * batch)).2 = true := by
  have some_ : 0 < m * batch := Nat.mul_pos first positive
  have goes := (goesOn (m * batch - 1) (by omega)).2
  rw [Nat.sub_add_cancel some_] at goes
  exact fun asked => goes ⟨Nat.mul_mod_left m batch, asked⟩

theorem GoesOn.succ (goesOn : GoesOn source options batch s n) {a : α}
    (pulled : (source.next (course source options batch s n)).1 = .entity a)
    (unstopped : ¬StopsAt source options batch s (n + 1)) : GoesOn source options batch s (n + 1) := by
  intro i lt
  rcases Nat.lt_or_eq_of_le (Nat.le_of_lt_succ lt) with before | rfl
  · exact goesOn i before
  · exact ⟨⟨a, pulled⟩, unstopped⟩

section Steps

variable [Gzip] {r : Run σ ω}

/-- A run that has written a number of rows and told of its beginning and its batches. -/
structure Telling (batch n : Nat) (r : Run σ ω) : Prop where
  rows : r.rows = n
  batches : r.batches = n / batch
  events : r.events = ⟨.starting, 0, 0⟩ :: flushes batch (n / batch)

/-- How a loop over entities ends: at its limit or with the stream, stopped after a batch, or broken off. -/
inductive LoopEnd (source : Source σ ω α) (options : ExportOptions ω) (batch : Nat) (s : σ × ω) (limit : Nat) :
    Except Halt Unit × Run σ ω → Prop
  | done {n : Nat} {r : Run σ ω} (goesOn : GoesOn source options batch s n) (told : Telling batch n r)
      (last : n = limit ∨ (source.next (course source options batch s n)).1 = .finished) :
      LoopEnd source options batch s limit (.ok (), r)
  | stopped {n : Nat} {r : Run σ ω} (goesOn : GoesOn source options batch s n)
      (stops : StopsAt source options batch s (n + 1)) (told : Telling batch (n + 1) r) :
      LoopEnd source options batch s limit (.error (.error .cancelled), r.told options .cancelled)
  | broken {n : Nat} {r : Run σ ω} {halt : Halt} (goesOn : GoesOn source options batch s n)
      (events : r.events = ⟨.starting, 0, 0⟩ :: flushes batch (n / batch)) :
      LoopEnd source options batch s limit (.error halt, r)

/-! ## Steps, whatever the workbook is -/

/-- Runs that differ in their workbooks and rows at most. -/
structure Beside (r u : Run σ ω) : Prop where
  place : (u.source, u.world) = (r.source, r.world)
  batches : u.batches = r.batches
  events : u.events = r.events

theorem Beside.trans {t u : Run σ ω} (first : r.Beside t) (second : t.Beside u) : r.Beside u :=
  ⟨second.place.trans first.place, second.batches.trans first.batches, second.events.trans first.events⟩

theorem writeEntity_cases (config : Config) (schema : Schema α) (a : α) (r : Run σ ω) :
    (∃ u, (writeEntity config schema a).on r = (.ok (), u) ∧ r.Beside u ∧ u.rows = r.rows + 1) ∨
      ∃ halt u, (writeEntity config schema a).on r = (.error halt, u) ∧ r.Beside u := by
  rw [writeEntity, ActionOf.on_get_bind]
  cases schema.row a with
  | error b => exact .inr ⟨.breakdown b, r, rfl, rfl, rfl, rfl⟩
  | ok values =>
      by_cases aligned : values.length = schema.headers.length
      · cases placed : (placeRow config schema (r.rows + 1) values).on (r.workbook, r.formats) with
        | mk outcome s =>
            obtain ⟨book, memo⟩ := s
            rw [placeRow] at placed
            cases outcome with
            | error e =>
                refine .inr ⟨.error e, { r with workbook := book, formats := memo }, ?_, rfl, rfl, rfl⟩
                simp [aligned, ActionOf.on_bind_error (onFormatted_on placed)]
            | ok =>
                refine .inl ⟨{ r with workbook := book, formats := memo, rows := r.rows + 1 }, ?_, ⟨rfl, rfl, rfl⟩, rfl⟩
                simp [aligned, ActionOf.on_bind_ok (onFormatted_on placed)]
      · refine .inr ⟨.error (misaligned schema values.length schema.headers.length (r.rows + 1)), r, ?_, rfl, rfl, rfl⟩
        simp [aligned]

theorem endBatch_cases (options : ExportOptions ω) (r : Run σ ω) :
    (∃ halt u, (endBatch options).on r = (.error halt, u) ∧ r.Beside u) ∨
      ∃ u, r.Beside u ∧ u.rows = r.rows ∧
        let t := ({ u with batches := u.batches + 1 } : Run σ ω).told options .flushedBatch
        (endBatch options).on r =
          if options.stopRequested t.world then (.error (.error .cancelled), t.told options .cancelled)
          else (.ok (), t) := by
  cases paged : (Workbook.onSheet (Window.pageOut 0)).on r.workbook with
  | mk outcome book =>
      cases outcome with
      | error e =>
          refine .inl ⟨.error e, { r with workbook := book }, ?_, rfl, rfl, rfl⟩
          rw [endBatch]
          exact ActionOf.on_bind_error (onWorkbook_on paged) _
      | ok => exact .inr ⟨{ r with workbook := book }, ⟨rfl, rfl, rfl⟩, rfl, endBatch_paged options paged⟩

/-! ## The loop -/

namespace Telling

variable {t u : Run σ ω} (told : Telling batch n r)
include told

/-- A row that does not fill a batch is written, and nothing is told. -/
theorem written (beside : r.Beside u) (rows : u.rows = r.rows + 1) (unfilled : ¬(n + 1) % batch = 0) :
    Telling batch (n + 1) u where
  rows := by rw [rows, told.rows]
  batches := by rw [beside.batches, told.batches, Nat.succ_div_of_mod_ne_zero unfilled]
  events := by rw [beside.events, told.events, Nat.succ_div_of_mod_ne_zero unfilled]

/-- A row that fills a batch is written, and the batch is told of. -/
theorem flushed (beside : r.Beside u) (rows : u.rows = r.rows + 1) (filled : (n + 1) % batch = 0)
    (options : ExportOptions ω) :
    Telling batch (n + 1) (({ u with batches := u.batches + 1 } : Run σ ω).told options .flushedBatch) := by
  have last : n / batch + 1 = (n + 1) / batch := (Nat.succ_div_of_mod_eq_zero filled).symm
  have all : (n / batch + 1) * batch = n + 1 := by
    rw [last]
    exact Nat.div_mul_cancel (Nat.dvd_of_mod_eq_zero filled)
  constructor
  case rows => exact rows.trans (congrArg (· + 1) told.rows)
  case batches => exact (congrArg (· + 1) (beside.batches.trans told.batches)).trans last
  case events =>
    rw [Run.told, beside.events, rows, beside.batches, told.rows, told.batches, told.events, ← last, flushes_succ, all]
    rfl

end Telling

/-- What a run comes to that has told of a batch is its course. -/
theorem Telling.onCourse {v : Run σ ω}
    (flushed : Telling batch n (({ v with batches := v.batches + 1 } : Run σ ω).told options .flushedBatch)) {t : σ × ω}
    (place : (v.source, v.world) = t)
    (course_ : course source options batch s n = (t.1, options.listen ⟨.flushedBatch, n, n / batch⟩ t.2)) :
    (v.source, options.listen ⟨.flushedBatch, v.rows, v.batches + 1⟩ v.world) = course source options batch s n := by
  have rows : v.rows = n := flushed.rows
  have batches : v.batches + 1 = n / batch := flushed.batches
  rw [course_, rows, batches, ← place]

/-- The loop over entities ends in one of the three ways. -/
theorem writeEntities_ends (config : Config) (options : ExportOptions ω) (schema : Schema α)
    (place : (r.source, r.world) = course source options config.flushBatch s n) (told : Telling config.flushBatch n r)
    (goesOn : GoesOn source options config.flushBatch s n) (k : Nat) :
    LoopEnd source options config.flushBatch s (n + k) ((writeEntities config options schema source k).on r) := by
  induction k generalizing n r with
  | zero => exact .done goesOn told (.inl rfl)
  | succ k ih =>
      cases next : source.next (course source options config.flushBatch s n) with
      | mk pull t =>
          have pulled := next
          rw [← place] at pulled
          cases pull with
          | finished =>
              rw [writeEntities_finished config options schema k pulled]
              exact .done goesOn ⟨told.rows, told.batches, told.events⟩ (.inr (by rw [next]))
          | fault e =>
              rw [writeEntities_fault config options schema k pulled]
              exact .broken goesOn told.events
          | entity a =>
              have here : (source.next (course source options config.flushBatch s n)).1 = .entity a := by rw [next]
              have onCourse := course_succ next
              have begun : Telling config.flushBatch n { r with source := t.1, world := t.2 } :=
                ⟨told.rows, told.batches, told.events⟩
              rw [writeEntities_pulled config options schema pulled, show n + (k + 1) = n + 1 + k from
                (Nat.add_right_comm n 1 k).symm]
              rcases writeEntity_cases config schema a { r with source := t.1, world := t.2 } with
                ⟨u, wrote, beside, rows⟩ | ⟨halt, u, failed, beside⟩
              · have written : u.rows = n + 1 := rows.trans (congrArg (· + 1) told.rows)
                rw [ActionOf.on_bind_ok wrote, goOn, ActionOf.on_get_bind, written]
                by_cases filled : (n + 1) % config.flushBatch = 0
                · rw [if_pos filled] at onCourse ⊢
                  rcases endBatch_cases options u with ⟨halt, v, failed, aside⟩ | ⟨v, aside, same, ended⟩
                  · rw [ActionOf.on_bind_error failed]
                    exact .broken goesOn (aside.events.trans (beside.events.trans told.events))
                  · have flushed := begun.flushed (beside.trans aside) (same.trans rows) filled options
                    have there := flushed.onCourse (aside.place.trans beside.place) onCourse
                    by_cases stop : options.stopRequested
                        (({ v with batches := v.batches + 1 } : Run σ ω).told options .flushedBatch).world
                    · rw [ActionOf.on_bind_error (ended.trans (if_pos stop))]
                      refine .stopped goesOn ⟨filled, ?_⟩ flushed
                      rw [← there]
                      exact stop
                    · rw [ActionOf.on_bind_ok (ended.trans (if_neg stop))]
                      refine ih there flushed (goesOn.succ here fun stops => stop ?_)
                      have stopped := stops.2
                      rwa [← there] at stopped
                · rw [if_neg filled] at onCourse ⊢
                  have unstopped : ¬StopsAt source options config.flushBatch s (n + 1) := fun stops => filled stops.1
                  exact ih (beside.place.trans onCourse.symm) (begun.written beside rows filled)
                    (goesOn.succ here unstopped)
              · rw [ActionOf.on_bind_error failed]
                exact .broken goesOn (beside.events.trans told.events)

/-! ## The whole export -/

/-- How an export ends, and what it has told then. -/
inductive ExportEnd (source : Source σ ω α) (options : ExportOptions ω) (batch : Nat) (s : σ × ω) (limit : Nat) :
    Except Halt Unit × Run σ ω → Prop
  | completed {n : Nat} {r : Run σ ω} (goesOn : GoesOn source options batch s n)
      (last : n = limit ∨ (source.next (course source options batch s n)).1 = .finished) (rows : r.rows = n)
      (events : r.events = ⟨.starting, 0, 0⟩ :: flushes batch (n / batch) ++
        [⟨.writingWorkbook, n, n / batch⟩, ⟨.completed, n, n / batch⟩]) :
      ExportEnd source options batch s limit (.ok (), r)
  | cancelled {n : Nat} {r : Run σ ω} (goesOn : GoesOn source options batch s n)
      (stops : StopsAt source options batch s (n + 1))
      (events : r.events = ⟨.starting, 0, 0⟩ :: flushes batch ((n + 1) / batch) ++
        [⟨.cancelled, n + 1, (n + 1) / batch⟩]) :
      ExportEnd source options batch s limit (.error (.error .cancelled), r)
  | broken {n : Nat} {r : Run σ ω} {halt : Halt} {rest : List Progress}
      (goesOn : GoesOn source options batch s n) (ending : rest = [] ∨ rest = [⟨.writingWorkbook, n, n / batch⟩])
      (events : r.events = ⟨.starting, 0, 0⟩ :: flushes batch (n / batch) ++ rest) :
      ExportEnd source options batch s limit (.error halt, r)

variable [Zip]

/-- The workbook is written, or that breaks off. -/
theorem conclude_ends (options : ExportOptions ω) (now : Timestamp) (goesOn : GoesOn source options batch s n)
    (last : n = limit ∨ (source.next (course source options batch s n)).1 = .finished) (told : Telling batch n r) :
    ExportEnd source options batch s limit ((conclude options now : RunStep σ ω Unit).on r) := by
  obtain ⟨outcome, book, out, wrote⟩ : ∃ outcome book out, (writeOutput now).on (r.told options .writingWorkbook) =
      (outcome, { r.told options .writingWorkbook with workbook := book, output := out }) := ⟨_, _, _, rfl⟩
  have events : (r.told options .writingWorkbook).events =
      ⟨.starting, 0, 0⟩ :: flushes batch (n / batch) ++ [⟨.writingWorkbook, n, n / batch⟩] := by
    rw [Run.told, told.events, told.rows, told.batches]
  rw [conclude, ActionOf.on_bind_ok (tell_on options .writingWorkbook r)]
  cases outcome with
  | error halt =>
      rw [ActionOf.on_bind_error wrote]
      exact .broken goesOn (.inr rfl) events
  | ok =>
      rw [ActionOf.on_bind_ok wrote, tell_on]
      refine .completed goesOn last told.rows ?_
      change (r.told options .writingWorkbook).events ++ [⟨.completed, r.rows, r.batches⟩] = _
      rw [events, told.rows, told.batches, List.append_assoc]
      rfl

theorem LoopEnd.concluded {loop : RunStep σ ω Unit} (ends : LoopEnd source options batch s limit (loop.on r))
    (now : Timestamp) :
    ExportEnd source options batch s limit ((do loop; conclude options now : RunStep σ ω Unit).on r) := by
  cases ran : loop.on r with
  | mk outcome t =>
      rw [ran] at ends
      cases ends with
      | done goesOn told last =>
          rw [ActionOf.on_bind_ok ran]
          exact conclude_ends options now goesOn last told
      | @stopped n t goesOn stops told =>
          rw [ActionOf.on_bind_error ran]
          refine .cancelled goesOn stops ?_
          rw [Run.told, told.events, told.rows, told.batches]
      | broken goesOn events =>
          rw [ActionOf.on_bind_error ran]
          exact .broken goesOn (.inl rfl) (events.trans (List.append_nil _).symm)

/-- An export ends in one of these ways. -/
theorem exportRows_ends (config : Config) (options : ExportOptions ω) (schema : Schema α) (source : Source σ ω α)
    (filter : Option Filter) (now : Timestamp) (own : σ) (world : ω) (output : Sink)
    (spillDisk : Except IoFault Disk) :
    ExportEnd source options config.flushBatch
      ((source.opening filter).on (own, options.listen ⟨.starting, 0, 0⟩ world)).2 (rowLimit config)
      ((exportRows config options schema source filter now).on (start config own world output spillDisk)) := by
  have goesOn := GoesOn.zero source options config.flushBatch
    ((source.opening filter).on (own, options.listen ⟨.starting, 0, 0⟩ world)).2
  have first : flushes config.flushBatch (0 / config.flushBatch) = [] := by
    rw [Nat.zero_div, flushes, List.range_zero, List.map_nil]
  rw [exportRows_eq, ActionOf.on_bind_ok (tell_on options .starting _)]
  cases headed : (writeHeader config schema).on (start config own world output spillDisk).workbook with
  | mk outcome book =>
      have headed := onWorkbook_on (r := (start config own world output spillDisk).told options .starting) headed
      cases outcome with
      | error e =>
          rw [ActionOf.on_bind_error headed]
          exact .broken goesOn (.inl rfl) (by rw [first]; rfl)
      | ok =>
          rw [ActionOf.on_bind_ok headed]
          cases opens : (source.opening filter).on (own, options.listen ⟨.starting, 0, 0⟩ world) with
          | mk outcome s =>
              rw [opens] at goesOn
              have opened := onSource_on
                (r := { (start config own world output spillDisk).told options .starting with workbook := book }) opens
              cases outcome with
              | error e =>
                  rw [ActionOf.on_bind_error opened]
                  exact .broken goesOn (.inl rfl) (by rw [first]; rfl)
              | ok =>
                  rw [ActionOf.on_bind_ok opened]
                  have begun : Telling config.flushBatch 0 ({
                      (start config own world output spillDisk).told options .starting with
                      workbook := book, source := s.1, world := s.2 } : Run σ ω) :=
                    ⟨rfl, (Nat.zero_div _).symm, by rw [first]; rfl⟩
                  have ends := writeEntities_ends config options schema rfl begun goesOn (rowLimit config)
                  rw [Nat.zero_add] at ends
                  exact ends.concluded now

end Steps

end Run

variable {α σ ω : Type}

/-- What an export tells, whatever its source, its schema, its disk and its listener do. It starts; after every batch
    it tells of it; and if somebody has asked it to stop by then, it tells that it is cancelled, for the first such
    batch, and fails so. If it succeeds, it tells of the workbook and of its end, with the rows that it has written,
    which are the entities up to the limit. Any other failure breaks it off before or while the workbook is written.
    -/
theorem progress_of_export [Gzip] [Zip] (config : Config) (options : ExportOptions ω) (schema : Schema α)
    (source : Source σ ω α) (filter : Option Filter) (now : Timestamp) (own : σ) (world : ω) (output : Sink)
    (spillDisk : Except IoFault Disk) :
    let run := exportTo config options schema source filter now own world output spillDisk
    let batch := config.flushBatch
    let opened := ((source.opening filter).on (own, options.listen ⟨.starting, 0, 0⟩ world)).2
    let after (rows : Nat) := Run.course source options batch opened rows
    let asked (m : Nat) : Prop := options.stopRequested (after (m * batch)).2 = true
    ∃ n rest, run.2.events = ⟨.starting, 0, 0⟩ :: Run.flushes batch n ++ rest ∧
      (∀ p ∈ rest, p.phase ≠ .flushedBatch) ∧
      (run.2.events.Pairwise fun p q => p.rows ≤ q.rows ∧ p.batches ≤ q.batches) ∧
      (∀ m, 0 < m → m < n → ¬asked m) ∧
      ((run.1 = .ok () ∧ n = run.2.rows / batch ∧ (0 < n → ¬asked n) ∧
          rest = [⟨.writingWorkbook, run.2.rows, n⟩, ⟨.completed, run.2.rows, n⟩] ∧
          (∀ i, i < run.2.rows → ∃ a, (source.next (after i)).1 = .entity a) ∧
          (run.2.rows = Run.rowLimit config ∨ (source.next (after run.2.rows)).1 = .finished)) ∨
        (run.1 = .error (.error .cancelled) ∧ 0 < n ∧ asked n ∧ rest = [⟨.cancelled, n * batch, n⟩]) ∨
        (∃ halt, run.1 = .error halt ∧ (0 < n → ¬asked n) ∧
          (rest = [] ∨ ∃ rows, n = rows / batch ∧ rest = [⟨.writingWorkbook, rows, n⟩]))) := by
  have ends := Run.exportRows_ends config options schema source filter now own world output spillDisk
  have positive := config.flushBatch_pos
  intro run batch opened after asked
  cases ran : (Run.exportRows config options schema source filter now).on (.start config own world output spillDisk) with
  | mk outcome r =>
      have result : run = (outcome, r.finish source) := congrArg (fun x => (x.1, x.2.finish source)) ran
      rw [ran] at ends
      rw [result]
      cases ends with
      | @completed rows _ goesOn last count events =>
          obtain rfl : r.rows = rows := count
          have unasked (m : Nat) (first : 0 < m) (le : m ≤ r.rows / batch) : ¬asked m :=
            goesOn.unasked positive first ((Nat.le_div_iff_mul_le positive).mp le)
          refine ⟨r.rows / batch, _, events, by simp, ?_, fun m first lt => unasked m first (Nat.le_of_lt lt), .inl ?_⟩
          · change r.events.Pairwise _
            rw [events]
            exact Run.sorted_of_same (by simp) (Nat.div_mul_le_self r.rows batch)
          · exact ⟨rfl, rfl, fun first => unasked _ first (Nat.le_refl _), rfl, fun i lt => (goesOn i lt).1, last⟩
      | @cancelled rows _ goesOn stops events =>
          have whole : (rows + 1) / batch * batch = rows + 1 := Nat.div_mul_cancel (Nat.dvd_of_mod_eq_zero stops.1)
          refine ⟨(rows + 1) / batch, _, events, by simp, ?_, ?_, .inr (.inl ⟨rfl, ?_, ?_, ?_⟩)⟩
          · change r.events.Pairwise _
            rw [events]
            exact Run.sorted_of_same (by simp) (Nat.le_of_eq whole)
          · intro m first lt
            have before : m * batch < (rows + 1) / batch * batch := Nat.mul_lt_mul_of_pos_right lt positive
            rw [whole] at before
            exact goesOn.unasked positive first (Nat.le_of_lt_succ before)
          · exact Nat.div_pos (Nat.le_of_dvd (Nat.succ_pos rows) (Nat.dvd_of_mod_eq_zero stops.1)) positive
          · change options.stopRequested (after ((rows + 1) / batch * batch)).2 = true
            rw [whole]
            exact stops.2
          · rw [whole]
      | @broken rows _ halt rest goesOn ending events =>
          have unasked (m : Nat) (first : 0 < m) (le : m ≤ rows / batch) : ¬asked m :=
            goesOn.unasked positive first ((Nat.le_div_iff_mul_le positive).mp le)
          have same : ∀ p ∈ rest, p.rows = rows ∧ p.batches = rows / batch := by
            rcases ending with rfl | rfl <;> simp [batch]
          have unflushed : ∀ p ∈ rest, p.phase ≠ .flushedBatch := by
            rcases ending with rfl | rfl <;> simp
          refine ⟨rows / batch, rest, events, unflushed, ?_, fun m first lt => unasked m first (Nat.le_of_lt lt),
            .inr (.inr ⟨halt, rfl, fun first => unasked _ first (Nat.le_refl _), ending.imp_right fun told => ?_⟩)⟩
          · change r.events.Pairwise _
            rw [events]
            exact Run.sorted_of_same same (Nat.div_mul_le_self rows batch)
          · exact ⟨rows, rfl, told⟩

end SheetExport
