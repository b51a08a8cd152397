import SheetExport.Proofs.Job.CancelledExport
import SheetExport.Proofs.Storage.FileName
import SheetExport.Storage.Memory

/-! # Jobs that somebody wants to stop

What comes of the work on a job in whose course somebody asks for it to stop. A wish that is there before the work
begins is seen at once. One that comes later is seen at the end of the batch in which it comes, or never, when the
export ends before the batch does.
-/

namespace SheetExport

variable {σ F α : Type} {home : JobHome} {id : String} {v : JobView} {jobs : home.State}

def FileStorage.beside {J : Type} (storage : FileStorage F) : FileStorage (J × F) :=
  storage.within Prod.snd fun files w => (w.1, files)

/-- The worker whose scratch files and disk take everything. -/
def JobHome.worker (home : JobHome) (storage : FileStorage F) (config : Config) (clock : home.State × F → Timestamp) :
    Worker (home.State × F) where
  store := home.storeBeside F
  storage := storage.beside
  config
  scratch := .ok .unlimited
  clock

def JobHome.Records (home : JobHome) (id : String) (v : JobView) (jobs : home.State) : Prop :=
  ∃ job, ((home.store.find? id).on jobs).1 = .ok (some job) ∧ job.view = v

theorem JobHome.Holds.records (held : home.Holds id v jobs) (rows : v.rows < 2 ^ 64) (batches : v.batches < 2 ^ 64) :
    home.Records id v jobs := by
  obtain ⟨job, t, found, view⟩ := JobHome.find?_on held rows batches
  exact ⟨job, by rw [found], view⟩

/-- Work on a job that has not begun. -/
def Shift.unbegun (s : σ) (jobs : home.State) (files : F) : Shift (σ × Tally) (home.State × F) :=
  ⟨(s, ⟨0, 0⟩), (jobs, files), .initial, []⟩

namespace Worker

theorem onWorld_store {β : Type} {a : Action home.State β} {jobs' : home.State} {b : β}
    (shift : Shift σ (home.State × F)) (ran : a.on shift.world.1 = (.ok b, jobs')) :
    (onWorld (a.within Prod.fst fun s p => (s, p.2)) : WorkStep σ (home.State × F) β).on shift =
      (.ok b, { shift with world := (jobs', shift.world.2) }) := by
  rw [onWorld, ActionOf.on_within, ActionOf.on_failingAs, ActionOf.on_within, ran]
  rfl

section Steps

variable (storage : FileStorage F) (config : Config) (clock : home.State × F → Timestamp)
  (shift : Shift σ (home.State × F))

theorem looks_on (held : home.Holds id v shift.world.1) :
    ∃ jobs', (onWorld ((home.worker storage config clock).store.cancelRequested id)).on shift =
        (.ok v.cancelRequested, { shift with world := (jobs', shift.world.2) }) ∧ home.Holds id v jobs' := by
  obtain ⟨jobs', looked, held⟩ := JobHome.cancelRequested_on held
  exact ⟨jobs', onWorld_store shift looked, held⟩

theorem begin_asked (held : home.Holds id v shift.world.1) (asked : v.cancelRequested = true) :
    ∃ jobs', ((home.worker storage config clock).begin id).on shift =
        (.ok false, { shift with world := (jobs', shift.world.2) }) ∧ home.Holds id v jobs' := by
  obtain ⟨jobs', looked, held⟩ := looks_on storage config clock shift held
  refine ⟨jobs', ?_, held⟩
  rw [begin, ActionOf.on_bind_ok looked, asked]
  rfl

theorem begin_fresh (held : home.Holds id v shift.world.1) (quiet : v.cancelRequested = false)
    (ready : v.status = .ready) :
    ∃ jobs', ((home.worker storage config clock).begin id).on shift =
        (.ok true, { shift with world := (jobs', shift.world.2) }) ∧
      home.Holds id { v with status := .processing } jobs' := by
  have apply : v.status.transitionTo .processing = .apply := by rw [ready]; rfl
  obtain ⟨jobs₁, looked, held⟩ := looks_on storage config clock shift held
  obtain ⟨jobs₂, written, held⟩ := JobHome.setStatus_on held apply none none
  refine ⟨jobs₂, ?_, held⟩
  rw [begin, ActionOf.on_bind_ok looked, quiet]
  exact ActionOf.on_bind_ok (onWorld_store { shift with world := (jobs₁, shift.world.2) } written) _

theorem settle_on (held : home.Holds id v shift.world.1) (ending : Ending)
    (apply : v.status.transitionTo ending.status = .apply) :
    ∃ jobs', ((home.worker storage config clock).settle id ending).on shift =
        (.ok ending, { shift with world := (jobs', shift.world.2), announced := shift.announced ++ [⟨id, ending⟩] }) ∧
      home.Holds id { v with status := ending.status } jobs' := by
  obtain ⟨jobs', written, held⟩ := JobHome.setStatus_on held apply ending.locator ending.errorMessage
  exact ⟨jobs', ActionOf.on_bind_ok (onWorld_store shift written) _, held⟩

theorem saveFile_on {name : String} {bytes : ByteArray} {locator : String} {saved : F × Content}
    (accepts : (storage.save name spreadsheetType bytes.size).on (shift.world.2, ⟨bytes, 0⟩) = (.ok locator, saved)) :
    ((home.worker storage config clock).saveFile name bytes).on shift =
      (.ok locator, { shift with world := (shift.world.1, saved.1) }) := by
  have accepts : ((home.worker storage config clock).storage.save name spreadsheetType bytes.size).on
      (shift.world, ⟨bytes, 0⟩) = (.ok locator, (shift.world.1, saved.1), saved.2) := by
    rw [JobHome.worker, FileStorage.beside, FileStorage.within, ActionOf.on_within, accepts]
  rw [saveFile, onWorld, ActionOf.on_within, ActionOf.on_failingAs, ActionOf.on_of, accepts]
  rfl

theorem exportToScratch_on [Gzip] [Zip] {schema : Schema α} {source : Source σ home.State α} {filter : Option Filter}
    {outcome : Except Halt Unit} {run : Run σ (JobWatch × (home.State × F))}
    (exported : exportTo config (home.options F id) schema source.exported filter (clock shift.world) shift.source
      (shift.watch, shift.world) .unlimited = (outcome, run)) :
    ((home.worker storage config clock).exportToScratch id schema source.beside filter).on shift =
      (outcome.map fun _ => run.output.content,
        { shift with source := run.source, watch := run.world.1, world := run.world.2 }) :=
  congrArg (fun p => (p.1.map fun _ => p.2.output.content,
    { shift with source := p.2.source, watch := p.2.world.1, world := p.2.world.2 })) exported

end Steps

section Process

variable [Gzip] [Zip] (storage : FileStorage F) {config : Config} (clock : home.State × F → Timestamp)
  {schema : Schema α} {source : Source σ home.State α} {filter : Option Filter} {items : List α} {s : σ}
  {held : Nat → σ → Prop} {files : F}

/-- Nothing is opened for a job that somebody wants to stop already. -/
theorem process_asked (config : Config) (schema : Schema α) (files : F)
    (hands : source.Hands home id filter items s held)
    (job : home.Holds id ⟨.ready, 0, 0, true⟩ jobs) (meanwhile : Nat → home.State → home.State) :
    ∃ shift, ((home.worker storage config clock).process id schema (source.tallied meanwhile).beside filter).on
        (Shift.unbegun s jobs files) = (.ok .cancelled, shift) ∧
      shift.source.2 = ⟨0, 0⟩ ∧ shift.world.2 = files ∧ home.Holds id ⟨.cancelled, 0, 0, true⟩ shift.world.1 := by
  obtain ⟨jobs₁, begun, job⟩ := begin_asked storage config clock (Shift.unbegun s jobs files) job rfl
  obtain ⟨jobs₂, settled, job⟩ := settle_on storage config clock
    (Shift.unbegun (source.close (s, jobs₁)).2.1 (source.close (s, jobs₁)).2.2 files) (hands.closes s jobs₁ _ job)
    .cancelled rfl
  refine ⟨⟨((source.close (s, jobs₁)).2.1, ⟨0, 0⟩), (jobs₂, files), .initial, [⟨id, .cancelled⟩]⟩, ?_, rfl, rfl, job⟩
  rw [process, ActionOf.on_modify_bind, ActionOf.on_bind, ActionOf.on_caught]
  exact begun ▸ settled

theorem process_fresh (config : Config) (schema : Schema α) (filter : Option Filter) (s : σ) (files : F)
    (job : home.Holds id ⟨.ready, 0, 0, false⟩ jobs) (source : Source (σ × Tally) (home.State × F) α) :
    ∃ jobs', home.Holds id ⟨.processing, 0, 0, false⟩ jobs' ∧
      ((home.worker storage config clock).process id schema source filter).on (Shift.unbegun s jobs files) =
        (((home.worker storage config clock).deliver id schema source filter).caught >>=
          (home.worker storage config clock).conclude id).on (Shift.unbegun s jobs' files) := by
  obtain ⟨jobs', begun, job⟩ := begin_fresh storage config clock (Shift.unbegun s jobs files) job rfl rfl
  refine ⟨jobs', job, ?_⟩
  rw [process, ActionOf.on_modify_bind, ActionOf.on_bind, ActionOf.on_caught]
  exact begun ▸ rfl

variable [LawfulGzip] {j b : Nat} (job : home.Holds id ⟨.ready, 0, 0, false⟩ jobs)
  (hands : source.Hands home id filter items s held) (fits : schema.headers.length ≤ maxColumns)
  (good : ∀ a ∈ items, schema.Accepts a) (positive : 0 < j)
  (least : IsLeast {c | config.flushBatch ∣ c ∧ j ≤ c} b)
include job hands fits good positive least

theorem process_stopped (files : F) (le : b ≤ min items.length (Run.rowLimit config)) :
    ∃ shift, ((home.worker storage config clock).process id schema (source.tallied (home.requestAt id j)).beside
          filter).on (.unbegun s jobs files) = (.ok .cancelled, shift) ∧
      shift.source.2 = ⟨1, b⟩ ∧ shift.world.2 = files ∧
      home.Holds id ⟨.cancelled, b, b / config.flushBatch, true⟩ shift.world.1 := by
  obtain ⟨jobs', job, ran⟩ := process_fresh storage clock config schema filter s files job
    (source.tallied (home.requestAt id j)).beside
  obtain ⟨run, exported, tally, job, kept⟩ := exportTo_stopped hands least positive fits good
    (clock (jobs', files)) job le files
  have scratch := exportToScratch_on storage config clock (.unbegun s jobs' files) exported
  obtain ⟨jobs₂, settled, job⟩ := settle_on storage config clock ⟨run.source, run.world.2, run.world.1, []⟩ job
    .cancelled rfl
  refine ⟨⟨run.source, (jobs₂, run.world.2.2), run.world.1, [⟨id, .cancelled⟩]⟩, ?_, tally, kept, job⟩
  rw [ran, ActionOf.on_bind, ActionOf.on_caught, deliver, ActionOf.on_bind_error scratch]
  exact settled

theorem process_whole [LawfulZip] (late : min items.length (Run.rowLimit config) < b)
    (asked : j ≤ min (items.length + 1) (Run.rowLimit config))
    (small : ∀ world table, schema.tableOf 1 (items.take (Run.rowLimit config)) = .ok table →
      ∀ p ∈ Workbook.partsBefore (clock world) (config.look.styleSheet schema table) (mendSheetName schema.sheetName),
        p.content.size ≤ Zip.smallLimit)
    (accepts : ∀ bytes : ByteArray, ∃ locator saved, (storage.save (fileName schema.sheetName id) spreadsheetType
      bytes.size).on (files, ⟨bytes, 0⟩) = (.ok locator, saved)) :
    ∃ shift table bytes locator content,
      ((home.worker storage config clock).process id schema (source.tallied (home.requestAt id j)).beside
          filter).on (.unbegun s jobs files) = (.ok (.completed locator), shift) ∧
      home.Holds id ⟨.completed, min items.length (Run.rowLimit config),
        min items.length (Run.rowLimit config) / config.flushBatch, true⟩ shift.world.1 ∧
      (storage.save (fileName schema.sheetName id) spreadsheetType bytes.size).on (files, ⟨bytes, 0⟩) =
        (.ok locator, shift.world.2, content) ∧
      schema.tableOf 1 (items.take (Run.rowLimit config)) = .ok table ∧
      Zip.part? bytes 0 "xl/worksheets/sheet1.xml" = .ok ⟨"xl/worksheets/sheet1.xml", true, true,
        (Window.worksheetText (mendSheetName schema.sheetName) schema.resolvedWidths
          (config.look.rows schema (config.look.styleSheet schema table) table)).toUTF8⟩ := by
  obtain ⟨jobs', job, ran⟩ := process_fresh storage clock config schema filter s files job
    (source.tallied (home.requestAt id j)).beside
  obtain ⟨table, run, n, made, exported, ⟨tally, job, left⟩, read⟩ := exportTo_whole hands least positive fits good
    (clock (jobs', files)) job late asked (small (jobs', files)) files
  obtain ⟨locator, ⟨files', content⟩, saves⟩ := accepts run.output.content
  have scratch := exportToScratch_on storage config clock (.unbegun s jobs' files) exported
  have saved := saveFile_on storage config clock ⟨run.source, run.world.2, run.world.1, []⟩ (left ▸ saves)
  obtain ⟨jobs₂, settled, job⟩ := settle_on storage config clock
    ⟨run.source, (run.world.2.1, files'), run.world.1, []⟩ job (.completed locator) rfl
  refine ⟨⟨run.source, (jobs₂, files'), run.world.1, [⟨id, .completed locator⟩]⟩, table, run.output.content, locator,
    content, ?_, job, saves, made, read⟩
  have delivered : ((home.worker storage config clock).deliver id schema
      (source.tallied (home.requestAt id j)).beside filter).on (.unbegun s jobs' files) = _ :=
    (ActionOf.on_bind_ok scratch _).trans saved
  rw [ran, ActionOf.on_bind, ActionOf.on_caught, delivered]
  exact settled

end Process

end Worker

/-- What comes of a job that somebody wants to stop. If the wish is there before the work begins, the job is cancelled
    and its source is not opened. If it comes while the `j`-th item is asked for, the first batch that ends with that
    item or later decides: if it ends within the rows that the export would have, the job is cancelled with the rows
    up to there, and no more items are asked for; otherwise the job is completed with all rows and its file is saved,
    unless a part of the archive other than the sheet is too large for one. -/
theorem request_to_cancel_decided [Gzip] [Zip] [LawfulGzip] [LawfulZip] (home : JobHome) (id : String)
    (storage : FileStorage F) (config : Config) (clock : home.State × F → Timestamp) (schema : Schema α)
    (source : Source σ home.State α) (filter : Option Filter) (items : List α) (s : σ) (held : Nat → σ → Prop)
    (jobs : home.State) (files : F) (fresh : home.Holds id ⟨.ready, 0, 0, false⟩ jobs)
    (hands : source.Hands home id filter items s held) (fits : schema.headers.length ≤ 16384)
    (good : ∀ a ∈ items, schema.Accepts a)
    (accepts : ∀ bytes : ByteArray, ∃ locator saved, (storage.save (Worker.fileName schema.sheetName id) spreadsheetType
      bytes.size).on (files, ⟨bytes, 0⟩) = (.ok locator, saved)) :
    let work (meanwhile : Nat → home.State → home.State) (jobs : home.State) :=
      ((home.worker storage config clock).process id schema (source.tallied meanwhile).beside filter).on
        (.unbegun s jobs files)
    let limit := min (config.maxRows.getD 1048574) 1048574
    let rows := min items.length limit
    (∃ shift, work (fun _ jobs => jobs) ((home.store.requestCancel id).on jobs).2 = (.ok .cancelled, shift) ∧
      shift.source.2 = ⟨0, 0⟩ ∧ shift.world.2 = files ∧ home.Records id ⟨.cancelled, 0, 0, true⟩ shift.world.1) ∧
    ∀ j b, 0 < j → j ≤ min (items.length + 1) limit → IsLeast {c | config.flushBatch ∣ c ∧ j ≤ c} b →
      (b ≤ rows → ∃ shift, work (home.requestAt id j) jobs = (.ok .cancelled, shift) ∧
        shift.source.2 = ⟨1, b⟩ ∧ shift.world.2 = files ∧
        home.Records id ⟨.cancelled, b, b / config.flushBatch, true⟩ shift.world.1) ∧
      (rows < b → (∀ world table, schema.tableOf 1 (items.take limit) = .ok table →
          ∀ p ∈ Workbook.partsBefore (clock world) (config.look.styleSheet schema table) (mendSheetName schema.sheetName),
            p.content.size ≤ Zip.smallLimit) →
        ∃ shift table bytes locator content,
          work (home.requestAt id j) jobs = (.ok (.completed locator), shift) ∧
          home.Records id ⟨.completed, rows, rows / config.flushBatch, true⟩ shift.world.1 ∧
          (storage.save (Worker.fileName schema.sheetName id) spreadsheetType bytes.size).on (files, ⟨bytes, 0⟩) =
            (.ok locator, shift.world.2, content) ∧
          schema.tableOf 1 (items.take limit) = .ok table ∧
          Zip.part? bytes 0 "xl/worksheets/sheet1.xml" = .ok ⟨"xl/worksheets/sheet1.xml", true, true,
            (Window.worksheetText (mendSheetName schema.sheetName) schema.resolvedWidths
              (config.look.rows schema (config.look.styleSheet schema table) table)).toUTF8⟩) := by
  have few : min items.length (Run.rowLimit config) < 2 ^ 64 :=
    Nat.lt_of_le_of_lt (Nat.min_le_right _ _) (Nat.lt_trans (Run.rowLimit_lt config) (by decide))
  refine ⟨?_, fun j b positive asked least => ⟨fun le => ?_, fun late small => ?_⟩⟩
  · obtain ⟨jobs', requested, job⟩ := JobHome.requestCancel_on fresh
    rw [requested]
    obtain ⟨shift, ran, tally, kept, job⟩ := Worker.process_asked storage clock config schema files hands job
      fun _ jobs => jobs
    exact ⟨shift, ran, tally, kept, job.records (by decide) (by decide)⟩
  · obtain ⟨shift, ran, tally, kept, job⟩ := Worker.process_stopped storage clock fresh hands fits good positive least
      files le
    have small : b < 2 ^ 64 := Nat.lt_of_le_of_lt le few
    exact ⟨shift, ran, tally, kept, job.records small (Nat.lt_of_le_of_lt (Nat.div_le_self _ _) small)⟩
  · obtain ⟨shift, table, bytes, locator, content, ran, job, saved⟩ := Worker.process_whole storage clock fresh
      hands fits good positive least late asked small accepts
    exact ⟨shift, table, bytes, locator, content, ran,
      job.records few (Nat.lt_of_le_of_lt (Nat.div_le_self _ _) few), saved⟩

/-- A feed of entities that leaves jobs alone hands them out. -/
theorem Feed.plainSource_hands [RegexEngine] (name : String) {feed : Feed home.State α} {items : List α}
    (same : ∀ n, feed.item n = items[n]?.map .ok) (quiet : ∀ n w, home.Calm id w (feed.effect n w))
    (s : Reading home.State α) :
    (plainSource name (.ok feed)).Hands home id none items s fun n t => t = some (feed, n) where
  opens w := ⟨some (feed, 0), w, rfl, rfl, fun _ held => held⟩
  entity n t w a there item := by
    subst there
    have ok : feed.item n = some (.ok a) := by rw [same, item]; rfl
    refine ⟨some (feed, n + 1), feed.effect n w, ?_, rfl, quiet n w⟩
    simp [plainSource, nextPlain, advance, ok]
  finished n t w there noneLeft := by
    subst there
    have none : feed.item n = none := by rw [same, noneLeft]; rfl
    refine ⟨some (feed, n), feed.effect n w, ?_, quiet n w⟩
    simp [plainSource, nextPlain, advance, none]
  closes _ _ _ held := held

theorem MemoryFiles.save_on {name : String} (named : isFileName name = true) (contentType : String) (length : Nat)
    (files : MemoryFiles) (c : Content) :
    ∃ saved, (storage.save name contentType length).on (files, c) = (.ok (locatorOf name), saved) := by
  simp only [storage, demandFileName_ok named]
  exact ⟨_, rfl⟩

def threeNames {ω : Type} : Feed ω String := .prepend #[.ok "a", .ok "b", .ok "c"] .nil

def pairs : Config := { Config.default with flushBatch := 2, flushBatch_pos := by decide }

def tableHome : JobHome :=
  .hashed {} HashTable.store (fun s => s.2.time) (HashTable.Kept defaultRetention) (HashTable.store_keeps (by decide))

/-- The table after a job was made, when nothing was in it. -/
def oneJob : tableHome.State := ((tableHome.store.create "1").on (([] : HashTable), (⟨0, midnight⟩ : Moment))).2

/-- A wish that comes with the first of three names is seen after the second; one that comes with the third is not. -/
theorem request_to_cancel_three_names :
    let work (j : Nat) := ((tableHome.worker MemoryFiles.storage pairs fun _ => midnight).process "1" names
      ((Feed.plainSource "feed" (.ok threeNames)).tallied (tableHome.requestAt "1" j)).beside none).on
        (.unbegun none oneJob [])
    (∃ shift, work 1 = (.ok .cancelled, shift) ∧ shift.source.2 = ⟨1, 2⟩ ∧ shift.world.2 = [] ∧
      tableHome.Records "1" ⟨.cancelled, 2, 1, true⟩ shift.world.1) ∧
    ∃ shift locator, work 3 = (.ok (.completed locator), shift) ∧
      tableHome.Records "1" ⟨.completed, 3, 1, true⟩ shift.world.1 := by
  have fresh : tableHome.Holds "1" ⟨.ready, 0, 0, false⟩ oneJob := by
    refine ⟨_, ⟨⟨_, rfl, rfl⟩, fun _ => rfl, by decide⟩, fun field text named => ?_⟩
    cases field <;> cases named <;> rfl
  have named : isFileName (Worker.fileName names.sheetName "1") = true := by
    rw [show Worker.fileName names.sheetName "1" = "S-1.xlsx" by decide]
    simp [isFileName]
  have accepts : ∀ bytes : ByteArray, ∃ locator saved, (MemoryFiles.storage.save (Worker.fileName names.sheetName "1")
      spreadsheetType bytes.size).on ([], ⟨bytes, 0⟩) = (.ok locator, saved) := fun bytes =>
    ⟨_, MemoryFiles.save_on named spreadsheetType bytes.size [] ⟨bytes, 0⟩⟩
  have quiet : ∀ n w, tableHome.Calm "1" w ((threeNames : Feed tableHome.State String).effect n w) := by
    intro n w v held
    simpa [threeNames, Feed.prepend, Feed.nil] using held
  have decided := request_to_cancel_decided tableHome "1" MemoryFiles.storage pairs (fun _ => midnight) names
    (Feed.plainSource "feed" (.ok threeNames)) none ["a", "b", "c"] none _ oneJob [] fresh
    (Feed.plainSource_hands "feed" (fun n => by rcases n with _ | _ | _ | _ <;> rfl) quiet none)
    (by decide) (fun a _ => ⟨[.text a], rfl, rfl, rfl⟩) accepts
  obtain ⟨-, meanwhile⟩ := decided
  have first : IsLeast {c | 2 ∣ c ∧ 1 ≤ c} 2 := ⟨⟨Nat.dvd_refl 2, by decide⟩, fun c inside => by
    obtain ⟨even, positive⟩ := inside
    omega⟩
  have third : IsLeast {c | 2 ∣ c ∧ 3 ≤ c} 4 := ⟨⟨by decide, by decide⟩, fun c inside => by
    obtain ⟨even, late⟩ := inside
    omega⟩
  obtain ⟨shift, table, bytes, locator, content, ran, job, -⟩ :=
    (meanwhile 3 4 (by decide) (by decide) third).2 (by decide) fun _ table made => by
      obtain rfl : [[.text "a"], [.text "b"], [.text "c"]] = table := Except.ok.inj made
      exact partsBefore_small (by decide +kernel)
  exact ⟨(meanwhile 1 2 (by decide) (by decide) first).1 (by decide), shift, locator, ran, job⟩

end SheetExport
