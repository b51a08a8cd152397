import SheetExport.Proofs.Job.Course
import SheetExport.Proofs.Job.Hashed
import SheetExport.Proofs.Job.Watch
import SheetExport.Proofs.Job.Written

/-! # What is announced of a job and what its record says

A worker announces an ending when the store has been told of it, whether or not the store took it. The first ending
that a job comes to is its record's for good, so whatever is announced later is true of the record if and only if it
is the same ending again.
-/

namespace SheetExport

/-- The record of a job after what is told of its endings: it takes the first, if it has not ended before. -/
def JobNote.cameTo (n : JobNote) : List Ending → JobNote
  | [] => n
  | first :: _ => n.moveTo first.status first.locator first.errorMessage

namespace JobNote

variable {n n' : JobNote}

theorem moveTo_ending_terminal (n : JobNote) (e : Ending) :
    (n.moveTo e.status e.locator e.errorMessage).status.isTerminal = true := by
  obtain ⟨status, locator, errorMessage⟩ := n
  cases status <;> cases e <;> rfl

theorem Underway.moveTo_ending (underway : n.Underway n') (e : Ending) :
    n'.moveTo e.status e.locator e.errorMessage = n.moveTo e.status e.locator e.errorMessage := by
  obtain ⟨status, locator, errorMessage⟩ := n
  cases underway with
  | inl same => rw [same]
  | inr moved =>
      subst moved
      cases status <;> cases e <;> rfl

theorem cameTo_of_terminal (ended : n.status.isTerminal = true) (endings : List Ending) : n.cameTo endings = n := by
  cases endings with
  | nil => rfl
  | cons first _ => exact moveTo_of_terminal ended _ _ _

end JobNote

/-! ## Errands -/

/-- What a worker is asked to do with a job. -/
inductive Errand (ω : Type) : Type 1 where
  | process {σ α : Type} (schema : Schema α) (source : Source σ ω α) (own : σ) (filter : Option Filter)
  | fail (message : String)

/-- What comes of an errand: what the worker answers, and what it announces. -/
structure Report where
  answer : Except Halt (Option JobStatus)
  announced : List JobEvent

namespace Errand

variable {ω : Type}

def run [Gzip] [Zip] (w : Worker ω) (id : String) (world : ω) : Errand ω → Report × ω
  | process schema source own filter =>
      let (outcome, s) := (w.process id schema source filter).on ⟨own, world, .initial, []⟩
      (⟨outcome.map fun ending => some ending.status, s.announced⟩, s.world)
  | fail message =>
      let (outcome, s) := (w.noteFailure id message).on (⟨(), world, .initial, []⟩ : Shift Unit ω)
      (⟨outcome.map fun _ => none, s.announced⟩, s.world)

/-- Errands that are run one after another, each with what comes of it and the world after it. -/
def runAll [Gzip] [Zip] (w : Worker ω) (id : String) : List (Errand ω) → ω → List (Report × ω)
  | [], _ => []
  | errand :: rest, world =>
      let (report, world) := errand.run w id world
      (report, world) :: runAll w id rest world

/-- The sources of an errand leave the record alone. -/
def Minds (noted : JobNote → ω → Prop) : Errand ω → Prop
  | process _ source _ _ => source.Minds noted
  | fail _ => True

end Errand

/-- The endings that were announced, in order. -/
def announcedEndings {ω : Type} (reports : List (Report × ω)) : List Ending :=
  reports.flatMap fun x => x.1.announced.map JobEvent.ending

/-- What a worker announced and answered is what it finds in the record of the job now. -/
def Worker.Confirms {ω : Type} (w : Worker ω) (id : String) (x : Report × ω) : Prop :=
  ∃ job, ((w.store.find? id).on x.2).1 = .ok (some job) ∧
    (∀ event ∈ x.1.announced, event.id = id ∧ event.ending.status = job.status ∧
      event.ending.locator = job.locator ∧ event.ending.errorMessage = job.errorMessage) ∧
    ∀ status, x.1.answer = .ok (some status) → status = job.status

namespace Errand

variable {ω : Type} {w : Worker ω} {id : String} {noted : JobNote → ω → Prop} {n : JobNote} {world : ω}

/-- An errand comes to one ending, which it announces and tells the store, or it breaks down and announces nothing. -/
theorem run_cases [Gzip] [Zip] (minds : w.Minds id noted) (held : noted n world) {errand : Errand ω}
    (aloof : errand.Minds noted) :
    ∃ n' report world', errand.run w id world = (report, world') ∧ noted n' world' ∧
      ((∃ e, report.announced = [⟨id, e⟩] ∧ n' = n.moveTo e.status e.locator e.errorMessage ∧
          ∀ status, report.answer = .ok (some status) → status = e.status) ∨
        (report.announced = [] ∧ n.Underway n' ∧ ∀ status, report.answer ≠ .ok (some status))) := by
  cases errand with
  | fail message =>
      obtain ⟨s', settled, held', told⟩ := Worker.settle_stands minds
        (show Worker.Stands noted n [] (⟨(), world, .initial, []⟩ : Shift Unit ω) from ⟨held, rfl⟩) (.failed message)
      refine ⟨_, ⟨.ok none, s'.announced⟩, s'.world, ?_, held', .inl ⟨.failed message, told, rfl, ?_⟩⟩
      · rw [run, Worker.noteFailure_on, settled]
        rfl
      · rintro status ⟨⟩
  | process schema source own filter =>
      obtain ⟨n', s', underway, ⟨e, ran, held', told⟩ | ⟨b, ran, held', told⟩⟩ :=
        Worker.process_stands minds aloof schema filter
          (show Worker.Stands noted n [] ⟨own, world, .initial, []⟩ from ⟨held, rfl⟩)
      · refine ⟨_, ⟨.ok (some e.status), s'.announced⟩, s'.world, ?_, held',
          .inl ⟨e, told, underway.moveTo_ending e, ?_⟩⟩
        · rw [run, ran]
          rfl
        · rintro status ⟨⟩
          rfl
      · refine ⟨n', ⟨.error (.breakdown b), s'.announced⟩, s'.world, ?_, held', .inr ⟨told, underway, ?_⟩⟩
        · rw [run, ran]
          rfl
        · rintro status ⟨⟩

variable {reads : JobNote → JobNote}
  (reading : ∀ n world, noted n world →
    ∃ job, ((w.store.find? id).on world).1 = .ok (some job) ∧ job.note = reads n)
include reading

theorem confirms_iff (held : noted n world) {report : Report} {e : Ending} (announced : report.announced = [⟨id, e⟩])
    (answer : ∀ status, report.answer = .ok (some status) → status = e.status) :
    w.Confirms id (report, world) ↔ e.note = reads n := by
  obtain ⟨job, found, read⟩ := reading _ _ held
  have same :
      e.note = reads n ↔ e.status = job.status ∧ e.locator = job.locator ∧ e.errorMessage = job.errorMessage := by
    rw [← read, Ending.note, Job.note, JobNote.mk.injEq]
  rw [same]
  constructor
  · rintro ⟨job', found', confirmed, -⟩
    obtain rfl : job = job' := by
      rw [found] at found'
      exact Option.some.inj (Except.ok.inj found')
    exact (confirmed ⟨id, e⟩ (by rw [announced]; exact List.mem_cons_self)).2
  · intro agree
    refine ⟨job, found, ?_, fun status given => (answer status given).trans agree.1⟩
    intro event inside
    rw [announced, List.mem_singleton] at inside
    subst inside
    exact ⟨rfl, agree⟩

theorem confirms_of_silent (held : noted n world) {report : Report} (announced : report.announced = [])
    (answer : ∀ status, report.answer ≠ .ok (some status)) : w.Confirms id (report, world) := by
  obtain ⟨job, found, -⟩ := reading _ _ held
  refine ⟨job, found, ?_, fun status given => absurd given (answer status)⟩
  rw [announced]
  exact List.forall_mem_nil _

/-- What is announced and answered in the course of some errands is always what the record says if and only if every
    ending that is announced is the one that the record came to first, as far as the store can read it. -/
theorem confirmed_iff [Gzip] [Zip] (minds : w.Minds id noted) (errands : List (Errand ω))
    (aloof : ∀ e ∈ errands, e.Minds noted) (held : noted n world) :
    (∀ x ∈ runAll w id errands world, w.Confirms id x) ↔
      ∀ e ∈ announcedEndings (runAll w id errands world),
        e.note = reads (n.cameTo (announcedEndings (runAll w id errands world))) := by
  induction errands generalizing n world with
  | nil => simp [runAll, announcedEndings]
  | cons errand rest ih =>
      rw [List.forall_mem_cons] at aloof
      obtain ⟨n', report, world', ran, held', came⟩ := run_cases minds held aloof.1
      have later := ih aloof.2 held'
      have unrolled : runAll w id (errand :: rest) world = (report, world') :: runAll w id rest world' := by
        rw [runAll, ran]
      rw [unrolled, List.forall_mem_cons, later]
      rcases came with ⟨e, announced, rfl, answer⟩ | ⟨announced, underway, answer⟩
      · have first : announcedEndings ((report, world') :: runAll w id rest world') =
            e :: announcedEndings (runAll w id rest world') := by
          simp [announcedEndings, announced]
        rw [first, List.forall_mem_cons, JobNote.cameTo, confirms_iff reading held' announced answer,
          JobNote.cameTo_of_terminal (n.moveTo_ending_terminal e)]
      · have none_ : announcedEndings ((report, world') :: runAll w id rest world') =
            announcedEndings (runAll w id rest world') := by
          simp [announcedEndings, announced]
        rw [none_, and_iff_right (confirms_of_silent reading held' announced answer)]
        -- Only a breakdown is silent, and it leaves the job where any ending can still be told.
        cases announcedEndings (runAll w id rest world') with
        | nil => simp
        | cons e endings => rw [JobNote.cameTo, JobNote.cameTo, underway.moveTo_ending e]

end Errand

/-! ## Where jobs are kept -/

/-- The values of fields tell what is noted of a job. -/
structure Job.NotedIn (values : String → Option String) (n : JobNote) : Prop where
  status : values JobField.status.name = some n.status.name
  locator : values JobField.locator.name = n.locator
  errorMessage : values JobField.errorMessage.name = n.errorMessage

theorem Job.NotedIn.moved {values : String → Option String} {n : JobNote} (noted : NotedIn values n)
    (status : JobStatus) (locator errorMessage : Option String) (now : Timestamp) :
    NotedIn (match n.status.transitionTo status with
      | .apply => overwritten values (statusFields status locator errorMessage now)
      | .unchanged | .rejected => values) (n.moveTo status locator errorMessage) := by
  have told := WrittenIn.overwritten_statusFields values status locator errorMessage now
  rw [JobNote.moveTo]
  cases n.status.transitionTo status with
  | apply =>
      refine ⟨told .status, (told .locator).trans ?_, (told .errorMessage).trans ?_⟩
      · rw [noted.locator]
        cases locator <;> rfl
      · rw [noted.errorMessage]
        cases errorMessage <;> rfl
  | unchanged => exact noted
  | rejected => exact noted

namespace JobHome

variable {F : Type} {home : JobHome} {id : String} {n : JobNote} {s : home.State}

/-- What is noted of a job, which is neither evicted nor about to expire. -/
def Notes : (home : JobHome) → (id : String) → JobNote → home.State → Prop
  | memory limits => fun id n s => ∃ job, MemoryJobs.Holding limits job s ∧ job.id = id ∧ job.note = n
  | hashed h _ _ kept _ => fun id n s => ∃ values, kept (h.key id) values s ∧ Job.NotedIn values n

/-- What is found in the record of what is noted. A hash does not tell a blank text from none. -/
def reads : JobHome → JobNote → JobNote
  | memory _, n => n
  | hashed .., n => { n with
      locator := n.locator.filter (!Text.isBlankText ·)
      errorMessage := n.errorMessage.filter (!Text.isBlankText ·) }

theorem setStatus_notes (noted : home.Notes id n s) (status : JobStatus) (locator errorMessage : Option String) :
    ∃ t, (home.store.setStatus id status locator errorMessage).on s = (.ok (), t) ∧
      home.Notes id (n.moveTo status locator errorMessage) t := by
  cases home with
  | memory limits =>
      obtain ⟨job, holding, rfl, rfl⟩ := noted
      refine ⟨_, rfl, _, holding.update fun _ => Job.id_of_moveTo?, ?_, job.note_moveTo? ..⟩
      cases moved : job.moveTo? status locator errorMessage s.2.time with
      | none => rfl
      | some k => exact Job.id_of_moveTo? moved
  | hashed h hashes clock kept keeps =>
      obtain ⟨values, there, told⟩ := noted
      obtain ⟨t, written, there⟩ :=
        HashedJobs.setStatus_kept keeps there told.status status locator errorMessage (clock s)
      exact ⟨t, (HashedJobs.on_timed _ _ _ _).trans written, _, there, told.moved status locator errorMessage (clock s)⟩

theorem setProgress_notes (noted : home.Notes id n s) (rows batches : Nat) :
    ∃ t, (home.store.setProgress id rows batches).on s = (.ok (), t) ∧ home.Notes id n t := by
  cases home with
  | memory limits =>
      obtain ⟨job, holding, rfl, rfl⟩ := noted
      exact ⟨_, rfl, _, holding.update (f := fun j => some { j with rows, batches }) fun _ made => by cases made; rfl,
        rfl, rfl⟩
  | hashed h hashes clock kept keeps =>
      obtain ⟨values, there, told⟩ := noted
      obtain ⟨t, written, there⟩ := HashedJobs.setProgress_kept keeps there told.status rows batches
      exact ⟨t, written, _, there, told.status, told.locator, told.errorMessage⟩

theorem cancelRequested_notes (noted : home.Notes id n s) :
    ∃ wanted t, (home.store.cancelRequested id).on s = (.ok wanted, t) ∧ home.Notes id n t := by
  cases home with
  | memory limits =>
      obtain ⟨job, holding, rfl, rfl⟩ := noted
      exact ⟨_, _, ActionOf.on_bind_ok holding.look _, job, holding.expire, rfl, rfl⟩
  | hashed h hashes clock kept keeps =>
      obtain ⟨values, there, told⟩ := noted
      obtain ⟨t, looked, there⟩ := HashedJobs.cancelRequested_kept keeps there
      exact ⟨_, t, looked, values, there, told⟩

theorem find?_notes (noted : home.Notes id n s) :
    ∃ job, ((home.store.find? id).on s).1 = .ok (some job) ∧ job.note = home.reads n := by
  cases home with
  | memory limits =>
      obtain ⟨job, holding, rfl, rfl⟩ := noted
      exact ⟨job, congrArg Prod.fst holding.look, rfl⟩
  | hashed h hashes clock kept keeps =>
      obtain ⟨values, there, told⟩ := noted
      obtain ⟨fields, t, looked, same⟩ := HashedJobs.find?_kept keeps there (clock s)
      obtain ⟨job, read, note⟩ : ∃ job, Job.ofFields? id fields (clock s) = some job ∧
          job.note = reads (hashed h hashes clock kept keeps) n := by
        simp only [Job.ofFields?, same, told.status, told.locator, told.errorMessage, Option.bind_some,
          JobStatus.ofName?_name]
        exact ⟨_, rfl, rfl⟩
      exact ⟨job, (congrArg Prod.fst ((HashedJobs.on_timed _ _ _ _).trans looked)).trans (by rw [read]), note⟩

/-- A worker beside whose home of jobs there is a storage that leaves the records alone. -/
theorem minds_beside {w : Worker (home.State × F)} (kept : w.store = home.storeBeside F)
    (saves : ∀ n name contentType length content world, home.Notes id n world.1 →
      home.Notes id n ((w.storage.save name contentType length).on (world, content)).2.1.1) :
    w.Minds id fun n world => home.Notes id n world.1 where
  setStatus {n world} noted status locator errorMessage := by
    obtain ⟨t, written, noted⟩ := setStatus_notes noted status locator errorMessage
    exact ⟨(t, world.2), by rw [kept, storeBeside, JobStore.within, ActionOf.on_within, written], noted⟩
  setProgress {n world} noted rows batches := by
    obtain ⟨t, written, noted⟩ := setProgress_notes noted rows batches
    rw [kept, storeBeside, JobStore.within, ActionOf.on_within, written]
    exact noted
  cancelRequested {n world} noted := by
    obtain ⟨wanted, t, looked, noted⟩ := cancelRequested_notes noted
    exact ⟨wanted, (t, world.2), by rw [kept, storeBeside, JobStore.within, ActionOf.on_within, looked], noted⟩
  save {n world} noted name contentType length content := saves n name contentType length content world noted

end JobHome

/-- The events that a worker publishes for a job and the statuses that it answers with are always the ones in the record
    if and only if all of them tell the outcome that the record came to first, as far as the store can read it: the
    outcome with which the job had ended before, or else the first that is published. -/
theorem announcements_confirmed_iff [Gzip] [Zip] {F : Type} (home : JobHome) (id : String)
    (w : Worker (home.State × F)) (errands : List (Errand (home.State × F))) (n : JobNote) (jobs : home.State)
    (files : F) (kept : w.store = home.storeBeside F)
    (saves : ∀ n name contentType length content world, home.Notes id n world.1 →
      home.Notes id n ((w.storage.save name contentType length).on (world, content)).2.1.1)
    (aloof : ∀ e ∈ errands, e.Minds fun n world => home.Notes id n world.1) (noted : home.Notes id n jobs) :
    let reports := Errand.runAll w id errands (jobs, files)
    (∀ x ∈ reports, w.Confirms id x) ↔
      ∀ e ∈ announcedEndings reports, e.note = home.reads (n.cameTo (announcedEndings reports)) := by
  refine Errand.confirmed_iff (fun n world noted => ?_) (JobHome.minds_beside kept saves) errands aloof noted
  obtain ⟨job, found, read⟩ := JobHome.find?_notes noted
  exact ⟨job, by rw [kept, JobHome.storeBeside, JobStore.within, ActionOf.on_within, found], read⟩

def inMemory : JobHome := .memory .default

/-- A worker whose files all have one locator. -/
def clerk : Worker (inMemory.State × Unit) where
  store := inMemory.storeBeside Unit
  storage := ⟨fun _ _ _ => pure "memory://a.xlsx", fun _ => pure ()⟩
  config := narrow
  scratch := .ok .unlimited
  clock world := world.1.2.time

/-- A source that cannot be opened. -/
def shut : Source Unit (inMemory.State × Unit) String :=
  ⟨"s", throw (.io .notFound), fun _ => throw (.io .notFound), pure .finished, pure ()⟩

/-- A job in memory that nobody has worked on. -/
def untouched : inMemory.State := ((inMemory.store.create "1").on (MemoryJobs.empty, (⟨0, midnight⟩ : Moment))).2

/-- Work that fails, and a report of the same failure. -/
def failures : List (Errand (inMemory.State × Unit)) :=
  [.process names shut () none, .fail "IO error: No such file or directory (os error 2)"]

theorem announcements_confirmed_failures :
    announcedEndings (Errand.runAll clerk "1" failures (untouched, ())) =
        [.failed "IO error: No such file or directory (os error 2)",
          .failed "IO error: No such file or directory (os error 2)"] ∧
      ∀ x ∈ Errand.runAll clerk "1" failures (untouched, ()), clerk.Confirms "1" x := by
  have idle : shut.Minds fun n world => inMemory.Notes "1" n world.1 :=
    ⟨fun _ => ⟨fun _ noted => noted, fun _ _ noted => noted, fun _ noted => noted⟩, fun noted => noted⟩
  have noted : inMemory.Notes "1" ⟨.ready, none, none⟩ untouched :=
    ⟨.fresh "1" midnight, ⟨⟨⟨.fresh "1" midnight, 0⟩, rfl, rfl, rfl⟩, by decide⟩, rfl, rfl⟩
  have aloof : ∀ e ∈ failures, e.Minds fun n world => inMemory.Notes "1" n world.1 := by
    simp only [failures, List.forall_mem_cons]
    exact ⟨idle, trivial, List.forall_mem_nil _⟩
  have told : announcedEndings (Errand.runAll clerk "1" failures (untouched, ())) =
      [.failed "IO error: No such file or directory (os error 2)",
        .failed "IO error: No such file or directory (os error 2)"] := rfl
  refine ⟨told, (announcements_confirmed_iff inMemory "1" clerk failures ⟨.ready, none, none⟩ untouched () rfl
    (fun _ _ _ _ _ _ noted => noted) aloof noted).mpr ?_⟩
  rw [told]
  decide

/-- A failure that is reported of a job which is completed is announced, and not in its record. -/
theorem late_failure_announced :
    let completed := ((inMemory.store.setStatus "1" .completed (some "memory://a.xlsx") none).on untouched).2
    ¬ ∀ x ∈ Errand.runAll clerk "1" [.fail "late"] (completed, ()), clerk.Confirms "1" x := by
  intro completed confirmed
  obtain ⟨job, found, told, -⟩ := confirmed _ List.mem_cons_self
  cases found
  obtain ⟨-, status, -⟩ := told ⟨"1", .failed "late"⟩ List.mem_cons_self
  cases status

end SheetExport
