import SheetExport.Proofs.Job.CancelCourse

/-! # An export that somebody wants to stop

The loop of such an export, and the export as a whole. Either a batch ends in time and the export stops there, or
it goes on to the end and the wish comes too late.
-/

namespace SheetExport

variable {σ F α : Type}

/-- What an export leaves: how often the source was asked for an item, the record of the job and the files. -/
structure Left (home : JobHome) (id : String) (asked : Nat) (v : JobView) (files : F)
    (t : (σ × Tally) × (JobWatch × (home.State × F))) : Prop where
  tally : t.1.2 = ⟨1, asked⟩
  job : home.Holds id v t.2.2.1
  files : t.2.2.2 = files

variable {home : JobHome} {id : String} {source : Source σ home.State α} {filter : Option Filter} {items : List α}
  {s : σ} {held : Nat → σ → Prop} {j b : Nat} {files : F} {config : Config} {schema : Schema α} {output : Sink}
  {first : (σ × Tally) × (JobWatch × (home.State × F))}

theorem Along.left {batch n : Nat} {t : (σ × Tally) × (JobWatch × (home.State × F))}
    (along : Along home id held batch j b files n t) :
    Left home id n (viewAfter batch n (decide (j ≤ n))) files t :=
  ⟨along.tally, along.job, along.files⟩

variable [Gzip] {r : Run (σ × Tally) (JobWatch × (home.State × F))}

namespace Left

theorem told {asked : Nat} {v : JobView} (left : Left home id asked v files (r.source, r.world)) (phase : Phase)
    (later : phase ≠ .starting) :
    Left home id asked { v with rows := r.rows, batches := r.batches } files
      ((r.told (home.options F id) phase).source, (r.told (home.options F id) phase).world) := by
  obtain ⟨own, ⟨watch, jobs, files⟩, book, memo, output, rows, batches, events⟩ := r
  obtain ⟨tally, job, rfl⟩ := left
  obtain ⟨jobs', heard, job⟩ := JobHome.listen_on (p := ⟨phase, rows, batches⟩) later watch files job
  rw [Run.told, heard]
  exact ⟨tally, job, rfl⟩

theorem closed (hands : source.Hands home id filter items s held) {n : Nat} {v : JobView}
    (left : Left home id n v files (r.source, r.world)) :
    Left home id n v files ((r.finish (source.disturbed id j)).source, (r.finish (source.disturbed id j)).world) := by
  obtain ⟨⟨own, tally⟩, ⟨watch, jobs, files⟩, book, memo, output, rows, batches, events⟩ := r
  obtain ⟨rfl, job, rfl⟩ := left
  exact ⟨rfl, hands.closes own jobs v job, rfl⟩

end Left

section Loop

variable [LawfulGzip] (hands : source.Hands home id filter items s held)
  (least : IsLeast {c | config.flushBatch ∣ c ∧ j ≤ c} b) (fits : schema.headers.length ≤ maxColumns)
  (good : ∀ a ∈ items, schema.Accepts a)
  (begun : Along home id held config.flushBatch j b files 0 first)
  (h : Run.At .sound config schema (source.disturbed id j) (home.options F id) first output [] r)
include hands least fits good begun h

theorem writeEntities_before {n : Nat} (le : n ≤ items.length) (early : n < b) (below : n < maxRows) :
    ∃ table t, schema.tableOf 1 (items.take n) = .ok table ∧
      Run.At .sound config schema (source.disturbed id j) (home.options F id) first output table t ∧
      ∀ k, (Run.writeEntities config (home.options F id) schema (source.disturbed id j) (k + n)).on r =
        (Run.writeEntities config (home.options F id) schema (source.disturbed id j) k).on t := by
  have along : ∀ m, m ≤ items.length → _ := fun m le => begun.course (n := m) hands least le
  have length : (items.take n).length = n := List.length_take_of_le le
  have loop := Run.writeEntities_list fits (items.take n) h (by simpa [length] using below)
    (fun i a inside => by
      obtain ⟨lt, -⟩ := List.getElem?_eq_some_iff.mp inside
      rw [length] at lt
      rw [List.getElem?_take_of_lt lt] at inside
      obtain ⟨t', jobs, next, -⟩ := (along i (by omega)).pulled hands inside
      rw [List.length_nil, Nat.zero_add, next])
    (fun m _ le' stops => by
      rw [length, List.length_nil, Nat.zero_add] at le'
      have late := ((along m (by omega)).stopsAt_iff.mp stops).2
      omega)
  obtain ⟨table, made⟩ := Schema.tableOf_of_accepts (fun a inside => good a (List.mem_of_mem_take inside)) 1
  rw [List.length_nil, Nat.zero_add, made, length] at loop
  obtain ⟨t, at', steps⟩ := loop
  exact ⟨table, t, made, at', steps⟩

theorem writeEntities_stopped {limit : Nat} (positive : 0 < b) (le : b ≤ min items.length limit)
    (below : limit < maxRows) :
    ∃ t, (Run.writeEntities config (home.options F id) schema (source.disturbed id j) limit).on r =
        (.error (.error .cancelled), t) ∧
      Left home id b ⟨.processing, b, b / config.flushBatch, true⟩ files (t.source, t.world) := by
  obtain ⟨n, rfl⟩ := Nat.exists_eq_succ_of_ne_zero (Nat.ne_of_gt positive)
  obtain ⟨lt, le⟩ := Nat.le_min.mp le
  obtain ⟨table, t, made, before, steps⟩ := writeEntities_before hands least fits good begun h (n := n) (by omega)
    (by omega) (by omega)
  have length : table.length = n := by
    rw [Schema.length_of_tableOf made]
    exact List.length_take_of_le (by omega)
  have along := begun.course hands least (n := n) (by omega)
  have next := begun.course hands least (n := n + 1) lt
  obtain ⟨t', jobs, pulled, -⟩ := along.pulled hands (List.getElem?_eq_getElem lt)
  have last := Run.writeEntities_entity fits before (by omega) (a := items[n]) (by rw [length, pulled])
  obtain ⟨values, row⟩ := (good items[n] (List.getElem_mem lt)).valuesAt
  rw [row] at last
  obtain ⟨u, ⟨place, rows, batches, -⟩, stops, -⟩ := last.resolve_right fun failed => failed.1 rfl
  rw [List.length_append, List.length_singleton, length] at place rows batches
  have stopped := stops (by
    rw [length, next.stopsAt_iff]
    exact ⟨Nat.mod_eq_zero_of_dvd least.1.1, Nat.le_refl _⟩) (limit - (n + 1))
  rw [show limit - (n + 1) + 1 = limit - n by omega] at stopped
  refine ⟨u.told (home.options F id) .cancelled, ?_, ?_⟩
  · have steps := steps (limit - n)
    rw [Nat.sub_add_cancel (by omega)] at steps
    exact steps.trans stopped
  · have left := (place ▸ next.left).told .cancelled (by simp)
    rw [rows, batches, show decide (j ≤ n + 1) = true from decide_eq_true least.1.2] at left
    exact left

theorem writeEntities_whole {limit : Nat} (late : min items.length limit < b) (asked : j ≤ min (items.length + 1) limit)
    (below : limit < maxRows) :
    ∃ table t n, schema.tableOf 1 (items.take limit) = .ok table ∧
      (Run.writeEntities config (home.options F id) schema (source.disturbed id j) limit).on r = (.ok (), t) ∧
      t.workbook.Shown .sound config.look schema table ∧ t.output = output ∧ t.rows = min items.length limit ∧
      t.batches = min items.length limit / config.flushBatch ∧
      Left home id n (viewAfter config.flushBatch (min items.length limit) true) files (t.source, t.world) := by
  obtain ⟨table, t, made, ⟨place, rows, batches, out, shown, -⟩, steps⟩ :=
    writeEntities_before hands least fits good begun h (Nat.min_le_left _ limit) late (by omega)
  have along := begun.course hands least (Nat.min_le_left _ limit)
  have length : table.length = min items.length limit := by
    rw [Schema.length_of_tableOf made]
    exact List.length_take_of_le (Nat.min_le_left _ _)
  rw [length] at place rows batches
  have taken : items.take (min items.length limit) = items.take limit := by
    rw [Nat.min_comm]
    exact List.take_eq_take_min.symm
  have all := steps (limit - min items.length limit)
  rw [Nat.sub_add_cancel (Nat.min_le_right _ _)] at all
  cases spare : limit - min items.length limit with
  | zero =>
      refine ⟨table, t, min items.length limit, taken ▸ made, by rw [all, spare]; rfl, shown, out, rows, batches, ?_⟩
      have left := place ▸ along.left
      rwa [show decide (j ≤ min items.length limit) = true from decide_eq_true (by omega)] at left
  | succ rest =>
      have short : min items.length limit = items.length := by omega
      obtain ⟨t', jobs, ended, job⟩ := along.ended hands (List.getElem?_eq_none (Nat.le_of_eq short.symm))
      rw [← place] at ended
      have last := Run.writeEntities_finished config (home.options F id) schema rest ended
      refine ⟨table, { t with source := (t', ⟨1, min items.length limit + 1⟩), world := (t.world.1, (jobs, files)) }, _,
        taken ▸ made, by rw [all, spare]; exact last, shown, out, rows, batches, ⟨rfl, ?_, rfl⟩⟩
      rwa [show decide (j ≤ min items.length limit + 1) = true from decide_eq_true (by omega)] at job

end Loop

section Export

variable [Zip] [LawfulGzip] (hands : source.Hands home id filter items s held)
  (least : IsLeast {c | config.flushBatch ∣ c ∧ j ≤ c} b) (positive : 0 < j)
  (fits : schema.headers.length ≤ maxColumns) (good : ∀ a ∈ items, schema.Accepts a)
  (now : Timestamp) {jobs : home.State} (job : home.Holds id ⟨.processing, 0, 0, false⟩ jobs)
include hands least positive fits job

theorem exportRows_begins (files : F) :
    ∃ first r, Along home id held config.flushBatch j b files 0 first ∧
      Run.At .sound config schema (source.disturbed id j) (home.options F id) first .unlimited [] r ∧
      (Run.exportRows config (home.options F id) schema (source.disturbed id j) filter now).on
          (.start config (s, ⟨0, 0⟩) (.initial, (jobs, files)) .unlimited (.ok .sound)) =
        (do Run.writeEntities config (home.options F id) schema (source.disturbed id j) (Run.rowLimit config)
            Run.conclude (home.options F id) now : RunStep _ _ Unit).on r := by
  obtain ⟨t, u, opened, first, calm⟩ := hands.opening j .initial jobs files
  obtain ⟨r, at', begun⟩ := Run.exportRows_begun config (home.options F id) schema (source.disturbed id j) filter now
    (s, ⟨0, 0⟩) (.initial, (jobs, files)) .unlimited fits opened
  exact ⟨_, r, Along.begun .initial first rfl (calm _ job) config.flushBatch positive least.1.2 files, at', begun⟩

include good

theorem exportTo_stopped (le : b ≤ min items.length (Run.rowLimit config)) (files : F) :
    ∃ run, exportTo config (home.options F id) schema (source.disturbed id j) filter now
        (s, ⟨0, 0⟩) (.initial, (jobs, files)) .unlimited = (.error (.error .cancelled), run) ∧
      Left home id b ⟨.processing, b, b / config.flushBatch, true⟩ files (run.source, run.world) := by
  obtain ⟨first, r, begun, at', ran⟩ := exportRows_begins hands least positive fits now job files
  obtain ⟨t, stopped, left⟩ := writeEntities_stopped hands least fits good begun at'
    (Nat.lt_of_lt_of_le positive least.1.2) le (Run.rowLimit_lt config)
  rw [ActionOf.on_bind_error stopped] at ran
  exact ⟨_, by rw [exportTo, ran], left.closed hands⟩

theorem exportTo_whole [LawfulZip] (late : min items.length (Run.rowLimit config) < b)
    (asked : j ≤ min (items.length + 1) (Run.rowLimit config))
    (small : ∀ table, schema.tableOf 1 (items.take (Run.rowLimit config)) = .ok table →
      ∀ p ∈ Workbook.partsBefore now (config.look.styleSheet schema table) (mendSheetName schema.sheetName),
        p.content.size ≤ Zip.smallLimit) (files : F) :
    ∃ table run n, schema.tableOf 1 (items.take (Run.rowLimit config)) = .ok table ∧
      exportTo config (home.options F id) schema (source.disturbed id j) filter now
        (s, ⟨0, 0⟩) (.initial, (jobs, files)) .unlimited = (.ok (), run) ∧
      Left home id n ⟨.processing, min items.length (Run.rowLimit config),
        min items.length (Run.rowLimit config) / config.flushBatch, true⟩ files (run.source, run.world) ∧
      Zip.part? run.output.content 0 "xl/worksheets/sheet1.xml" = .ok ⟨"xl/worksheets/sheet1.xml", true, true,
        (Window.worksheetText (mendSheetName schema.sheetName) schema.resolvedWidths
          (config.look.rows schema (config.look.styleSheet schema table) table)).toUTF8⟩ := by
  obtain ⟨first, r, begun, at', ran⟩ := exportRows_begins hands least positive fits now job files
  obtain ⟨table, t, n, made, whole, shown, out, rows, batches, left⟩ :=
    writeEntities_whole hands least fits good begun at' late asked (Run.rowLimit_lt config)
  have opened : Sink.Open t.output.content t.output := out ▸ ⟨rfl, rfl, rfl⟩
  obtain ⟨book, sink, concluded⟩ := Run.conclude_on (home.options F id) now shown opened (small table made)
  obtain ⟨-, -, read⟩ := Run.conclude_through shown concluded
  rw [ActionOf.on_bind_ok whole, concluded] at ran
  refine ⟨table, _, n, made, by rw [exportTo, ran], ?_, ?_⟩
  · have left := left.told .writingWorkbook (by simp)
    have left := Left.told (r := { t.told (home.options F id) .writingWorkbook with workbook := book, output := sink })
      left .completed (by simp)
    rw [← batches, ← rows]
    exact Left.closed hands left
  · rw [out] at read
    exact Workbook.part?_worksheet read

end Export

end SheetExport
