import SheetExport.Calendar.Moment
import SheetExport.Job.Basic

/-!
# Jobs in memory

Jobs are kept in the order in which they were last written to. Every operation first evicts the jobs
that have not been written to for too long; one that writes then evicts the oldest of those that are too
many. Whoever listens is told of every job that is evicted.
-/

namespace SheetExport

structure JobLimits where
  /-- Nanoseconds after its last write until a job is evicted. -/
  retention : Nat
  maxJobs : Nat
  maxJobs_pos : 0 < maxJobs

namespace JobLimits

/-- The limits asked for; at least one job is kept. -/
def of (retention maxJobs : Nat) : JobLimits := ⟨retention, max maxJobs 1, by omega⟩

/-- The most jobs that are kept unless something else is asked for. -/
def defaultMaxJobs : Nat := 10000

def default : JobLimits := of defaultRetention defaultMaxJobs

end JobLimits

structure KeptJob where
  job : Job
  /-- When it was last written to, on the clock that only goes on. -/
  writtenAt : Nat

structure MemoryJobs where
  /-- The jobs that are kept, the one whose last write is longest ago first. -/
  kept : List KeptJob
  /-- The jobs that have been evicted, in this order. -/
  evicted : List Job

namespace MemoryJobs

def empty : MemoryJobs := ⟨[], []⟩

/-- The number of jobs that are kept, expired or not. -/
def size (s : MemoryJobs) : Nat := s.kept.length

def evictFirst (n : Nat) (s : MemoryJobs) : MemoryJobs where
  kept := s.kept.drop n
  evicted := s.evicted ++ (s.kept.take n).map KeptJob.job

/-- A job was last written to so long ago that it has to go. -/
def isExpired (limits : JobLimits) (now : Moment) (k : KeptJob) : Bool :=
  decide (limits.retention ≤ now.elapsed - k.writtenAt)

/-- Evicts expired jobs, up to the first that is not. -/
def expire (limits : JobLimits) (now : Moment) (s : MemoryJobs) : MemoryJobs :=
  s.evictFirst (s.kept.takeWhile (isExpired limits now)).length

/-- Evicts the first jobs as long as there are too many. -/
def enforceCapacity (limits : JobLimits) (s : MemoryJobs) : MemoryJobs :=
  s.evictFirst (s.size - limits.maxJobs)

/-- The job with an id, if it is kept. -/
def find? (s : MemoryJobs) (id : String) : Option Job :=
  (s.kept.find? fun k => k.job.id == id).map KeptJob.job

/-- Writes a job, which is then the last. -/
def write (now : Moment) (job : Job) (s : MemoryJobs) : MemoryJobs :=
  { s with kept := (s.kept.filter fun k => k.job.id != job.id) ++ [⟨job, now.elapsed⟩] }

def create (limits : JobLimits) (id : String) (now : Moment) (s : MemoryJobs) : MemoryJobs :=
  ((s.expire limits now).write now (.fresh id now.time)).enforceCapacity limits

/-- Writes the job with an id as `f` says; where `f` gives nothing, nothing is written. -/
def update (limits : JobLimits) (id : String) (f : Job → Option Job) (now : Moment) (s : MemoryJobs) :
    MemoryJobs :=
  let s := s.expire limits now
  (match (s.find? id).bind f with
    | some job => s.write now job
    | none => s).enforceCapacity limits

def evictExpired (limits : JobLimits) (now : Moment) (s : MemoryJobs) : Nat × MemoryJobs :=
  let t := s.expire limits now
  (t.evicted.length - s.evicted.length, t)

/-- A change that cannot fail, made at the present moment. -/
def changing (f : Moment → MemoryJobs → MemoryJobs) : Action (MemoryJobs × Moment) Unit :=
  modify fun (s, now) => (f now s, now)

/-- The job with an id, after the expired ones have gone. -/
def look (limits : JobLimits) (id : String) : Action (MemoryJobs × Moment) (Option Job) := do
  changing (expire limits)
  return (← get).1.find? id

/-- The store that keeps jobs in memory. Its state holds the present moment, which it reads and does not
    change. -/
def store (limits : JobLimits) : JobStore (MemoryJobs × Moment) where
  create id := changing (create limits id)
  find? := look limits
  setStatus id status locator errorMessage := changing fun now =>
    update limits id (fun job => job.moveTo? status locator errorMessage now.time) now
  setProgress id rows batches := changing (update limits id fun job => some { job with rows, batches })
  requestCancel id := changing (update limits id fun job => some { job with cancelRequested := true })
  cancelRequested id := return (← look limits id).any Job.cancelRequested

end MemoryJobs

end SheetExport
