import Mathlib.Logic.Relation
import SheetExport.Job.Service
import SheetExport.Proofs.Job.Course
import SheetExport.Proofs.Job.Memory

/-! # Jobs that are done in the background

While the work on a job goes on, others use the store of jobs too: they make jobs and change theirs, ask for jobs to
stop, and time passes. Unless the job is evicted in all this, its record is moved by its worker alone, and work that
was started comes to one end, which is announced once and is what the record says.
-/

namespace SheetExport

/-- A record says what is noted, and when it ended if it has. -/
def Job.Tells (n : JobNote) (j : Job) : Prop :=
  j.note = n ∧ (j.status.isTerminal = true → j.completedAt.isSome = true)

theorem Job.Tells.moveTo {n : JobNote} {j : Job} (told : j.Tells n) (status : JobStatus)
    (locator errorMessage : Option String) (now : Timestamp) :
    ((j.moveTo? status locator errorMessage now).getD j).Tells (n.moveTo status locator errorMessage) := by
  obtain ⟨rfl, dated⟩ := told
  refine ⟨j.note_moveTo? status locator errorMessage now, ?_⟩
  rw [moveTo?]
  cases j.status.transitionTo status with
  | apply =>
      intro ended
      rw [Option.getD_some] at ended ⊢
      rw [if_pos ended]
      rfl
  | unchanged => exact dated
  | rejected => exact dated

namespace MemoryJobs

variable {limits : JobLimits} {id other : String} {n n' : JobNote} {s : MemoryJobs} {now : Moment} {job : Job}

/-- What is noted of a job in memory, unless it was evicted. -/
def Notes (id : String) (n : JobNote) (s : MemoryJobs) : Prop :=
  (∃ job, s.find? id = some job ∧ job.Tells n) ∨ ∃ job ∈ s.evicted, job.id = id

namespace Notes

theorem evictFirst (held : Notes id n s) (m : Nat) : Notes id n (s.evictFirst m) := by
  rcases held with ⟨job, found, told⟩ | ⟨job, gone, same⟩
  · obtain ⟨k, kept, rfl⟩ := find?_eq_some_iff.mp found
    rw [← List.take_append_drop m s.kept, List.find?_append, Option.or_eq_some_iff] at kept
    rcases kept with early | ⟨-, late⟩
    · refine .inr ⟨k.job, List.mem_append_right _ (List.mem_map_of_mem (List.mem_of_find?_eq_some early)), ?_⟩
      simpa using List.find?_some early
    · exact .inl ⟨k.job, find?_eq_some_iff.mpr ⟨k, late, rfl⟩, told⟩
  · exact .inr ⟨job, List.mem_append_left _ gone, same⟩

theorem expire (held : Notes id n s) (limits : JobLimits) (now : Moment) : Notes id n (s.expire limits now) :=
  held.evictFirst _

theorem enforceCapacity (held : Notes id n s) (limits : JobLimits) : Notes id n (s.enforceCapacity limits) :=
  held.evictFirst _

theorem write_own (s : MemoryJobs) (now : Moment) (own : job.id = id) (told : job.Tells n) :
    Notes id n (s.write now job) :=
  .inl ⟨job, by rw [find?_write, if_pos own.symm], told⟩

theorem write_other (held : Notes id n s) (now : Moment) (different : job.id ≠ id) : Notes id n (s.write now job) :=
  held.imp_left fun ⟨found, same, told⟩ => ⟨found, by rw [find?_write, if_neg different.symm, same], told⟩

theorem create_own (limits : JobLimits) (id : String) (now : Moment) (s : MemoryJobs) :
    Notes id ⟨.ready, none, none⟩ (s.create limits id now) := by
  have told : (Job.fresh id now.time).Tells ⟨.ready, none, none⟩ := ⟨rfl, fun ended => absurd ended Bool.false_ne_true⟩
  exact enforceCapacity (write_own _ now rfl told) limits

theorem create_other (held : Notes id n s) (different : other ≠ id) (limits : JobLimits) (now : Moment) :
    Notes id n (s.create limits other now) :=
  ((held.expire limits now).write_other now different).enforceCapacity limits

section Update

variable {f : Job → Option Job} (same : ∀ a b, f a = some b → b.id = a.id)
include same

theorem update_own (held : Notes id n s) (limits : JobLimits) (now : Moment)
    (changes : ∀ a, a.Tells n → ((f a).getD a).Tells n') : Notes id n' (s.update limits id f now) := by
  rw [update]
  rcases held.expire limits now with ⟨job, found, told⟩ | ⟨job, gone, named⟩
  · rw [found, Option.bind_some]
    have told' := changes job told
    cases changed : f job with
    | none => exact enforceCapacity (.inl ⟨job, found, by rwa [changed] at told'⟩) limits
    | some k =>
        have own : k.id = id := (same job k changed).trans (id_of_find? found)
        exact enforceCapacity (write_own _ now own (by rwa [changed] at told')) limits
  · refine enforceCapacity (.inr ⟨job, ?_, named⟩) limits
    split <;> exact gone

theorem update_other (held : Notes id n s) (limits : JobLimits) (now : Moment) (different : other ≠ id) :
    Notes id n (s.update limits other f now) := by
  rw [update]
  cases changed : ((s.expire limits now).find? other).bind f with
  | none => exact (held.expire limits now).enforceCapacity limits
  | some job =>
      obtain ⟨old, found, made⟩ := Option.bind_eq_some_iff.mp changed
      have named : job.id = other := (same old job made).trans (id_of_find? found)
      exact ((held.expire limits now).write_other now (named ▸ different)).enforceCapacity limits

/-- A change that does not concern what is noted. -/
theorem update (held : Notes id n s) (limits : JobLimits) (any : String) (now : Moment)
    (changes : ∀ a, a.Tells n → ((f a).getD a).Tells n) : Notes id n (s.update limits any f now) := by
  by_cases own : any = id
  · exact own ▸ update_own same (own ▸ held) limits now changes
  · exact held.update_other same limits now own

end Update

end Notes

/-! ## What others do -/

/-- A step of others than the worker of a job, who make and move jobs of their own only. -/
inductive Elsewhere (limits : JobLimits) (id : String) : MemoryJobs × Moment → MemoryJobs × Moment → Prop where
  | wait (s : MemoryJobs) (now later : Moment) : Elsewhere limits id (s, now) (s, later)
  | create {other : String} (different : other ≠ id) (s : MemoryJobs × Moment) :
      Elsewhere limits id s (((store limits).create other).on s).2
  | setStatus {other : String} (different : other ≠ id) (status : JobStatus) (locator errorMessage : Option String)
      (s : MemoryJobs × Moment) :
      Elsewhere limits id s (((store limits).setStatus other status locator errorMessage).on s).2
  | setProgress (any : String) (rows batches : Nat) (s : MemoryJobs × Moment) :
      Elsewhere limits id s (((store limits).setProgress any rows batches).on s).2
  | requestCancel (any : String) (s : MemoryJobs × Moment) :
      Elsewhere limits id s (((store limits).requestCancel any).on s).2
  | find? (any : String) (s : MemoryJobs × Moment) : Elsewhere limits id s (((store limits).find? any).on s).2
  | cancelRequested (any : String) (s : MemoryJobs × Moment) :
      Elsewhere limits id s (((store limits).cancelRequested any).on s).2
  | evictExpired (s : MemoryJobs) (now : Moment) : Elsewhere limits id (s, now) ((s.evictExpired limits now).2, now)

theorem Elsewhere.notes {s t : MemoryJobs × Moment} (step : Elsewhere limits id s t) (held : Notes id n s.1) :
    Notes id n t.1 := by
  cases step with
  | wait => exact held
  | create different => exact held.create_other different limits s.2
  | setStatus different status locator errorMessage =>
      exact held.update_other (f := fun j => j.moveTo? status locator errorMessage s.2.time)
        (fun _ _ => Job.id_of_moveTo?) limits s.2 different
  | setProgress any rows batches =>
      exact held.update (f := fun j => some { j with rows, batches }) (fun _ _ made => by cases made; rfl) limits any
        s.2 fun _ told => told
  | requestCancel any =>
      exact held.update (f := fun j => some { j with cancelRequested := true }) (fun _ _ made => by cases made; rfl)
        limits any s.2 fun _ told => told
  | find? => exact held.expire limits s.2
  | cancelRequested => exact held.expire limits s.2
  | evictExpired s now => exact held.expire limits now

theorem Elsewhere.notes_many {s t : MemoryJobs × Moment} (steps : Relation.ReflTransGen (Elsewhere limits id) s t)
    (held : Notes id n s.1) : Notes id n t.1 := by
  induction steps with
  | refl => exact held
  | tail _ step ih => exact step.notes ih

/-- Steps of others, which may also do whatever they like with the rest of the world. -/
def Leaves {F : Type} (limits : JobLimits) (id : String) (before after : (MemoryJobs × Moment) × F) : Prop :=
  Relation.ReflTransGen (Elsewhere limits id) before.1 after.1

theorem Leaves.notes {F : Type} {before after : (MemoryJobs × Moment) × F} (leaves : Leaves limits id before after)
    (held : Notes id n before.1.1) : Notes id n after.1.1 :=
  Elsewhere.notes_many leaves held

end MemoryJobs

/-! ## The worker among others -/

/-- The store with others at work before every call. -/
def JobStore.amid {ω : Type} (store : JobStore ω) (meanwhile : ω → ω) : JobStore ω where
  create id := do
    modify meanwhile
    store.create id
  find? id := do
    modify meanwhile
    store.find? id
  setStatus id status locator errorMessage := do
    modify meanwhile
    store.setStatus id status locator errorMessage
  setProgress id rows batches := do
    modify meanwhile
    store.setProgress id rows batches
  requestCancel id := do
    modify meanwhile
    store.requestCancel id
  cancelRequested id := do
    modify meanwhile
    store.cancelRequested id

/-- The store in memory of a world of which others have the rest. -/
def MemoryJobs.shared (limits : JobLimits) {F : Type}
    (meanwhile : (MemoryJobs × Moment) × F → (MemoryJobs × Moment) × F) : JobStore ((MemoryJobs × Moment) × F) :=
  ((store limits).within Prod.fst fun jobs world => (jobs, world.2)).amid meanwhile

/-- A source that has others do their steps whenever it is asked for something. -/
structure Source.Leaves {σ F α : Type} (limits : JobLimits) (id : String)
    (source : Source σ ((MemoryJobs × Moment) × F) α) : Prop where
  stream : ∀ s, MemoryJobs.Leaves limits id s.2 (source.stream.on s).2.2
  streamMatching : ∀ filter s, MemoryJobs.Leaves limits id s.2 ((source.streamMatching filter).on s).2.2
  next : ∀ s, MemoryJobs.Leaves limits id s.2 (source.next s).2.2
  close : ∀ s, MemoryJobs.Leaves limits id s.2 (source.close s).2.2

def FileStorage.Leaves {F : Type} (limits : JobLimits) (id : String)
    (storage : FileStorage ((MemoryJobs × Moment) × F)) : Prop :=
  ∀ name contentType length s,
    MemoryJobs.Leaves limits id s.1 ((storage.save name contentType length).on s).2.1

section Among

variable {F σ α : Type} {limits : JobLimits} {id : String} {w : Worker ((MemoryJobs × Moment) × F)}
  {meanwhile : (MemoryJobs × Moment) × F → (MemoryJobs × Moment) × F}

theorem Source.Leaves.minds {source : Source σ ((MemoryJobs × Moment) × F) α} (leaves : source.Leaves limits id) :
    source.Minds fun n world => MemoryJobs.Notes id n world.1.1 where
  asking _ :=
    { stream := fun s held => (leaves.stream s).notes held
      streamMatching := fun filter s held => (leaves.streamMatching filter s).notes held
      next := fun s held => (leaves.next s).notes held }
  closing held := (leaves.close _).notes held

theorem Worker.minds_shared (kept : w.store = MemoryJobs.shared limits meanwhile)
    (others : ∀ world, MemoryJobs.Leaves limits id world (meanwhile world)) (saves : w.storage.Leaves limits id) :
    w.Minds id fun n world => MemoryJobs.Notes id n world.1.1 where
  setStatus {n world} held status locator errorMessage := by
    rw [kept]
    refine ⟨_, rfl, ?_⟩
    exact MemoryJobs.Notes.update_own (fun _ _ => Job.id_of_moveTo?) ((others world).notes held) limits _ fun a told =>
      told.moveTo status locator errorMessage _
  setProgress {n world} held rows batches := by
    rw [kept]
    exact ((others world).notes held).update (f := fun j => some { j with rows, batches })
      (fun _ _ made => by cases made; rfl) limits id (meanwhile world).1.2 fun _ told => told
  cancelRequested {n world} held := by
    rw [kept]
    exact ⟨_, _, rfl, ((others world).notes held).expire limits (meanwhile world).1.2⟩
  save held name contentType length content := (saves name contentType length (_, content)).notes held

/-- Every job that was started comes to an end: when its work is done, exactly one event was published for it, and
    unless the job was evicted its record says what the event says. Work that breaks down makes the job fail with the
    text that it broke down with. -/
theorem started_job_ends [RegexEngine] [Gzip] [Zip] (limits : JobLimits) (w : Worker ((MemoryJobs × Moment) × F))
    (id : String) (schema : Schema α) (source : Source σ ((MemoryJobs × Moment) × F) α) (filter : Option Filter)
    (s : Shift σ ((MemoryJobs × Moment) × F))
    (kept : w.store = MemoryJobs.shared limits meanwhile)
    (others : ∀ world, MemoryJobs.Leaves limits id world (meanwhile world)) (saves : w.storage.Leaves limits id)
    (asks : source.Leaves limits id) (valid : ∀ f, filter = some f → f.check = .ok ()) :
    ∃ s' ending, (w.start id schema source filter).on s = (.ok (), s') ∧
      s'.announced = s.announced ++ [⟨id, ending⟩] ∧
      (∀ text, ((w.process id schema source filter).on ((Worker.onWorld (w.accept id filter)).on s).2).1 =
          .error (.breakdown (.message text)) → ending = .failed ("Export task panicked: " ++ text)) ∧
      ((∀ gone ∈ s'.world.1.1.evicted, gone.id ≠ id) → ∃ job, s'.world.1.1.find? id = some job ∧
        job.status.isTerminal = true ∧ job.status = ending.status ∧ job.locator = ending.locator ∧
        job.errorMessage = ending.errorMessage ∧ job.completedAt.isSome = true ∧
        (job.locator.isSome = true ↔ job.status = .completed) ∧
        (job.errorMessage.isSome = true ↔ job.status = .failed)) := by
  have minds := Worker.minds_shared kept others saves
  have accepted : (Worker.onWorld (w.accept id filter) : WorkStep σ _ Unit).on s =
      (.ok (), ((Worker.onWorld (w.accept id filter)).on s).2) := by
    rw [Worker.accept_of_valid w id valid, kept]
    rfl
  have stands : Worker.Stands (fun n world => MemoryJobs.Notes id n world.1.1) ⟨.ready, none, none⟩ s.announced
      ((Worker.onWorld (w.accept id filter)).on s).2 := by
    rw [Worker.accept_of_valid w id valid, kept]
    exact ⟨MemoryJobs.Notes.create_own limits id _ _, rfl⟩
  obtain ⟨n', ending, underway, ⟨held, told⟩, -, broken⟩ :=
    Worker.work_stands minds asks.minds schema filter stands
  have unended : JobNote.Open ⟨.ready, none, none⟩ := ⟨rfl, rfl, rfl⟩
  rw [(unended.underway underway).moveTo_ending] at held
  refine ⟨_, ending, by rw [Worker.start, ActionOf.on_bind_ok accepted, ActionOf.on_modify], told,
    fun text broke => broken (.message text) broke, fun stays => ?_⟩
  obtain ⟨job, found, noted, dated⟩ := held.resolve_right fun ⟨gone, inside, same⟩ => stays gone inside same
  obtain ⟨status, locator, errorMessage⟩ := JobNote.mk.inj noted
  rw [status] at dated
  refine ⟨job, found, ?_, status, locator, errorMessage, dated ending.isTerminal_status, ?_, ?_⟩
  · rw [status, ending.isTerminal_status]
  · rw [locator, status, ending.isSome_locator]
  · rw [errorMessage, status, ending.isSome_errorMessage]

end Among

/-- Somebody else makes a job. -/
def bystander (world : (MemoryJobs × Moment) × Unit) : (MemoryJobs × Moment) × Unit :=
  ((((MemoryJobs.store .default).create "2").on world.1).2, ())

def crowded : Worker ((MemoryJobs × Moment) × Unit) where
  store := MemoryJobs.shared .default bystander
  storage := ⟨fun _ _ _ => pure "memory://1.xlsx", fun _ => pure ()⟩
  config := narrow
  scratch := .ok .unlimited
  clock world := world.1.2.time

/-- A schema that no entity can be put into a row by. -/
def unmapped : Schema String := ⟨"S", "Text", ["Name"], [], [], fun s => .error (.message s)⟩

def booming : Source Unit ((MemoryJobs × Moment) × Unit) String :=
  ⟨"s", pure (), fun _ => pure (), pure (.entity "boom"), pure ()⟩

/-- Work that breaks down at its first entity. -/
theorem started_job_ends_broken :
    ∃ s' job, (crowded.start "1" unmapped booming none).on ⟨(), ((.empty, ⟨0, midnight⟩), ()), .initial, []⟩ =
        (.ok (), s') ∧
      s'.announced = [⟨"1", .failed "Export task panicked: boom"⟩] ∧ s'.world.1.1.find? "1" = some job ∧
      job.status = .failed ∧ job.errorMessage = some "Export task panicked: boom" := by
  have others (world) : MemoryJobs.Leaves .default "1" world (bystander world) :=
    .single (.create (by decide : "2" ≠ "1") world.1)
  obtain ⟨s', ending, started, told, broken, record⟩ := started_job_ends .default crowded "1" unmapped booming none
    ⟨(), ((.empty, ⟨0, midnight⟩), ()), .initial, []⟩ rfl others
    (fun _ _ _ _ => .refl) ⟨fun _ => .refl, fun _ _ => .refl, fun _ => .refl, fun _ => .refl⟩ nofun
  obtain rfl := broken "boom" rfl
  have nobody : s'.world.1.1.evicted = [] := by
    rw [show s' = _ from congrArg Prod.snd started.symm]
    rfl
  obtain ⟨job, found, -, status, -, message, -⟩ := record (by
    rw [nobody]
    exact List.forall_mem_nil _)
  exact ⟨s', job, started, told, found, status, message⟩

end SheetExport
