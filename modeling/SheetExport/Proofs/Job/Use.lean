import Mathlib.Data.List.Nodup
import SheetExport.Proofs.Job.Calls

/-! # Uses of a store of jobs

Whatever is done with a store of jobs is to make a call or to drop what has expired. In memory it is to evict some jobs
from the front and to write at most one, which is made then or moves forward.
-/

namespace SheetExport

/-! ## Forward -/

theorem JobStatus.rank_lt_of_apply {current wanted : JobStatus} (apply : current.transitionTo wanted = .apply) :
    current.rank < wanted.rank := by
  rw [transitionTo] at apply
  split at apply
  · cases apply
  · split at apply
    · assumption
    · cases apply

/-- A job is as another was, or further on: its status may have moved forward, but not once it had ended, when it also
    keeps all that was noted then; and whoever wanted it to stop still does. -/
structure Job.Advances (j k : Job) : Prop where
  id : k.id = j.id
  status : k.status = j.status ∨ j.status.rank < k.status.rank
  ended : j.status.isTerminal = true → k.status = j.status ∧ k.locator = j.locator ∧
    k.errorMessage = j.errorMessage ∧ k.completedAt = j.completedAt
  wanted : j.cancelRequested = true → k.cancelRequested = true

namespace Job.Advances

variable {i j k : Job}

theorem refl (j : Job) : j.Advances j := ⟨rfl, .inl rfl, fun _ => ⟨rfl, rfl, rfl, rfl⟩, fun wanted => wanted⟩

theorem trans (first : i.Advances j) (second : j.Advances k) : i.Advances k where
  id := second.id.trans first.id
  status := by
    have near := first.status
    have far := second.status
    grind
  ended terminal := by
    obtain ⟨status, locator, errorMessage, completedAt⟩ := first.ended terminal
    obtain ⟨status', locator', errorMessage', completedAt'⟩ := second.ended (status ▸ terminal)
    exact ⟨status'.trans status, locator'.trans locator, errorMessage'.trans errorMessage,
      completedAt'.trans completedAt⟩
  wanted := second.wanted ∘ first.wanted

theorem moved {status : JobStatus} {locator errorMessage : Option String} {now : Timestamp}
    (changed : j.moveTo? status locator errorMessage now = some k) : j.Advances k := by
  have apply := apply_of_moveTo? changed
  rw [moveTo?, apply] at changed
  cases changed
  refine ⟨rfl, .inr (JobStatus.rank_lt_of_apply apply), fun terminal => ?_, fun wanted => wanted⟩
  rw [JobStatus.not_terminal_of_apply apply] at terminal
  cases terminal

end Job.Advances

/-- Just a job that has ended tells when it did. -/
def Job.Dated (j : Job) : Prop := j.completedAt.isSome = j.status.isTerminal

theorem Job.Dated.moved {j k : Job} {status : JobStatus} {locator errorMessage : Option String} {now : Timestamp}
    (dated : j.Dated) (changed : j.moveTo? status locator errorMessage now = some k) : k.Dated := by
  have apply := apply_of_moveTo? changed
  rw [Dated, JobStatus.not_terminal_of_apply apply] at dated
  rw [moveTo?, apply] at changed
  cases changed
  rw [Dated]
  cases status.isTerminal with
  | true => rfl
  | false => exact dated

/-! ## Uses -/

/-- Jobs that are known by their ids. -/
def Naming.own : Naming String := ⟨id, some, fun _ => rfl⟩

/-- What is done with a store of jobs: a call is made, or what has expired is dropped. -/
inductive JobUse where
  | call (c : JobCall String)
  | dropExpired
  deriving DecidableEq

namespace JobUse

/-- The job that is made. -/
def made? : JobUse → Option String
  | call c => c.made?
  | dropExpired => none

/-- The record that is written, when the records are known; none for a change of status that is refused. -/
def written? (record : String → Option Job) (now : Timestamp) : JobUse → Option Job
  | call (.create id) => some (.fresh id now)
  | call (.setStatus id status locator errorMessage) =>
      (record id).bind fun j => j.moveTo? status locator errorMessage now
  | call (.setProgress id rows batches) =>
      (record id).map fun j => { j with rows := rows.toNat, batches := batches.toNat }
  | call (.requestCancel id) => (record id).map fun j => { j with cancelRequested := true }
  | call (.find _) | call (.cancelRequested _) | dropExpired => none

/-- A job that is not just made is known when it is written, and then moves forward. -/
theorem advances_of_written {record : String → Option Job} {now : Timestamp} {u : JobUse} {job : Job}
    (written : u.written? record now = some job) (unmade : u.made? = none) :
    ∃ id old, record id = some old ∧ old.Advances job ∧ (old.Dated → job.Dated) := by
  cases u with
  | dropExpired => cases written
  | call c =>
      cases c with
      | create => cases unmade
      | find | cancelRequested => cases written
      | setStatus id =>
          obtain ⟨old, known, moved⟩ := Option.bind_eq_some_iff.mp written
          exact ⟨id, old, known, Job.Advances.moved moved, fun dated => dated.moved moved⟩
      | setProgress id =>
          obtain ⟨old, known, rfl⟩ := Option.map_eq_some_iff.mp written
          exact ⟨id, old, known, { Job.Advances.refl old with }, fun dated => dated⟩
      | requestCancel id =>
          obtain ⟨old, known, rfl⟩ := Option.map_eq_some_iff.mp written
          exact ⟨id, old, known, { Job.Advances.refl old with wanted := fun _ => rfl }, fun dated => dated⟩

theorem written_of_made {u : JobUse} {id : String} (made : u.made? = some id) (record : String → Option Job)
    (now : Timestamp) : u.written? record now = some (.fresh id now) := by
  cases u with
  | dropExpired => cases made
  | call c =>
      cases c with
      | create => cases made; rfl
      | find | setStatus | setProgress | requestCancel | cancelRequested => cases made

/-- The jobs that are made. -/
def madeBy (uses : List (JobUse × Moment)) : List String := uses.filterMap fun use => use.1.made?

theorem madeBy_append (uses : List (JobUse × Moment)) (u : JobUse) (now : Moment) :
    madeBy (uses ++ [(u, now)]) = madeBy uses ++ u.made?.toList := by
  rw [madeBy, List.filterMap_append]
  cases made : u.made? <;> simp [madeBy, made]

end JobUse

/-! ## In memory -/

namespace MemoryJobs

variable {limits : JobLimits} {s : MemoryJobs}

/-- Of jobs with different ids, just those that are kept are found. -/
theorem find?_iff (unlike : (s.kept.map fun k => k.job.id).Nodup) (id : String) (j : Job) :
    s.find? id = some j ↔ ∃ k ∈ s.kept, k.job = j ∧ j.id = id := by
  constructor
  · intro found
    obtain ⟨k, first, rfl⟩ := find?_eq_some_iff.mp found
    exact ⟨k, List.mem_of_find?_eq_some first, rfl, by simpa using List.find?_some first⟩
  · rintro ⟨k, inside, rfl, rfl⟩
    cases found : s.kept.find? fun other => other.job.id == k.job.id with
    | none => exact absurd (List.find?_eq_none.mp found k inside) (by simp)
    | some other =>
        have same : other.job.id = k.job.id := by simpa using List.find?_some found
        rw [List.inj_on_of_nodup_map unlike (List.mem_of_find?_eq_some found) inside same] at found
        exact find?_eq_some_iff.mpr ⟨k, found, rfl⟩

theorem size_evictFirst (n : Nat) (s : MemoryJobs) : (s.evictFirst n).size = s.size - n := List.length_drop

/-- The store after a use of it. -/
def use (limits : JobLimits) (u : JobUse) (now : Moment) (s : MemoryJobs) : MemoryJobs :=
  match u with
  | .call c => ((c.ask (store limits) .own).on (s, now)).2.1
  | .dropExpired => (s.evictExpired limits now).2

/-- A use drops what has expired; if it writes a job then, it also drops what is too much. -/
theorem use_eq (room : s.size ≤ limits.maxJobs) (u : JobUse) (now : Moment) :
    s.use limits u now = match u.written? (s.expire limits now).find? now.time with
      | some job => ((s.expire limits now).write now job).enforceCapacity limits
      | none => s.expire limits now := by
  have roomy : (s.expire limits now).enforceCapacity limits = s.expire limits now := by
    refine enforceCapacity_of_room ?_
    rw [expire, size_evictFirst]
    omega
  have updated (id : String) (f : Job → Option Job) : s.update limits id f now =
      match ((s.expire limits now).find? id).bind f with
      | some job => ((s.expire limits now).write now job).enforceCapacity limits
      | none => s.expire limits now := by
    rw [update]
    cases ((s.expire limits now).find? id).bind f with
    | none => exact roomy
    | some job => rfl
  cases u with
  | dropExpired => rfl
  | call c =>
      cases c with
      | create | find | cancelRequested => rfl
      | setStatus id => exact updated id _
      | setProgress id | requestCancel id =>
          refine (updated id _).trans ?_
          simp only [JobUse.written?]
          cases (s.expire limits now).find? id <;> rfl

end MemoryJobs

end SheetExport
