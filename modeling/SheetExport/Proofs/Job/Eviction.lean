import Mathlib.Data.List.Induction
import SheetExport.Proofs.Job.Use

/-! # What becomes of the jobs that are made

Whoever uses a store in memory, and is told of the jobs that are evicted, can keep account of it: the writes in their
order, and the jobs that have gone. The store holds the last write of every job that has not gone, in the order of
these writes. Whatever is done with the store is to evict jobs from the front and to write one, and both keep the
account right; that jobs expire from the front is right because the order is that of time.
-/

namespace SheetExport

/-! ## The account -/

/-- The writes after which the same job was not written again. -/
def lastWrites : List KeptJob → List KeptJob
  | [] => []
  | k :: later => if later.any fun l => l.job.id == k.job.id then lastWrites later else k :: lastWrites later

/-- The last writes of the jobs that have not gone. -/
def standing (writes : List KeptJob) (gone : List Job) : List KeptJob :=
  (lastWrites writes).filter fun k => k.job.id ∉ gone.map Job.id

/-- The record of a job that has not gone. -/
def recordOf (writes : List KeptJob) (gone : List Job) (id : String) : Option Job :=
  ((standing writes gone).find? fun k => k.job.id == id).map KeptJob.job

theorem lastWrites_append (writes : List KeptJob) (k : KeptJob) :
    lastWrites (writes ++ [k]) = (lastWrites writes).filter (fun w => w.job.id != k.job.id) ++ [k] := by
  induction writes with
  | nil => rfl
  | cons w later ih =>
      simp only [List.cons_append, lastWrites, List.any_append, List.any_cons, List.any_nil, Bool.or_false]
      cases again : later.any fun l => l.job.id == w.job.id with
      | true => simpa using ih
      | false =>
          by_cases same : k.job.id = w.job.id
          · simp [same, ih]
          · have other : ¬ w.job.id = k.job.id := fun eq => same eq.symm
            simp [same, other, ih]

theorem lastWrites_sublist (writes : List KeptJob) : (lastWrites writes).Sublist writes := by
  induction writes with
  | nil => exact .slnil
  | cons w later ih =>
      rw [lastWrites]
      split
      · exact ih.cons w
      · exact ih.cons_cons w

theorem standing_sublist (writes : List KeptJob) (gone : List Job) : (standing writes gone).Sublist writes :=
  List.filter_sublist.trans (lastWrites_sublist writes)

theorem standing_append (writes : List KeptJob) (gone more : List Job) :
    standing writes (gone ++ more) = (standing writes gone).filter fun k => k.job.id ∉ more.map Job.id := by
  simp only [standing, List.filter_filter, List.map_append, List.mem_append, not_or, Bool.decide_and]
  congr 1
  funext k
  exact Bool.and_comm _ _

theorem standing_written {writes : List KeptJob} {gone : List Job} {k : KeptJob} (there : k.job.id ∉ gone.map Job.id) :
    standing (writes ++ [k]) gone = (standing writes gone).filter (fun w => w.job.id != k.job.id) ++ [k] := by
  have new : [k].filter (fun w => w.job.id ∉ gone.map Job.id) = [k] := List.filter_eq_self.mpr (by simpa using there)
  simp only [standing, lastWrites_append, List.filter_append, List.filter_filter, new]
  congr 2
  funext w
  exact Bool.and_comm _ _

/-- Of different jobs, those that are not among the first ones are the others. -/
theorem filter_others {front others : List KeptJob} (distinct : ((front ++ others).map fun k => k.job.id).Nodup) :
    ((front ++ others).filter fun k => k.job.id ∉ (front.map KeptJob.job).map Job.id) = others := by
  rw [List.map_append] at distinct
  obtain ⟨-, -, apart⟩ := List.nodup_append.mp distinct
  rw [List.filter_append, List.filter_eq_nil_iff.mpr, List.filter_eq_self.mpr, List.nil_append]
  · intro k other
    simp only [decide_eq_true_eq, List.map_map]
    intro first
    exact apart _ first _ (List.mem_map_of_mem other) rfl
  · intro k first
    simp only [decide_eq_true_eq, List.map_map, Decidable.not_not]
    exact List.mem_map_of_mem first

namespace MemoryJobs

variable {limits : JobLimits} {s : MemoryJobs} {now : Moment} {job : Job} {writes : List KeptJob} {made : List String}

/-- What is in the store and what has gone is as the account of it says, and these are all the jobs that were made. -/
structure Accounted (writes : List KeptJob) (made : List String) (s : MemoryJobs) : Prop where
  kept : s.kept = standing writes s.evicted
  everyone : (s.kept.map (fun k => k.job.id) ++ s.evicted.map Job.id).Perm made
  last : ∀ j ∈ s.evicted, ∃ k ∈ lastWrites writes, k.job = j

namespace Accounted

theorem empty : Accounted [] [] .empty := ⟨rfl, .refl _, List.forall_mem_nil _⟩

section Distinct

variable (account : Accounted writes made s) (distinct : made.Nodup)
include account distinct

theorem nodup : (s.kept.map (fun k => k.job.id) ++ s.evicted.map Job.id).Nodup :=
  account.everyone.nodup_iff.mpr distinct

theorem evictFirst (n : Nat) : Accounted writes made (s.evictFirst n) := by
  have split := List.take_append_drop n s.kept
  have distinct := (List.nodup_append.mp (account.nodup distinct)).1
  rw [← split] at distinct
  constructor
  case kept =>
    rw [MemoryJobs.evictFirst, standing_append, ← account.kept]
    exact ((congrArg _ split.symm).trans (filter_others distinct)).symm
  case everyone =>
    refine List.Perm.trans ?_ account.everyone
    conv => rhs; rw [← split]
    simp only [MemoryJobs.evictFirst, List.map_append, List.map_map, ← List.append_assoc]
    rw [List.append_assoc (List.map _ (s.kept.take n))]
    exact List.perm_append_comm
  case last =>
    intro j gone
    rcases List.mem_append.mp gone with before | now
    · exact account.last j before
    · obtain ⟨k, first, rfl⟩ := List.mem_map.mp now
      have kept := List.mem_of_mem_take first
      rw [account.kept] at kept
      exact ⟨k, (List.mem_filter.mp kept).1, rfl⟩

end Distinct

section Write

variable (account : Accounted writes made s) (there : job.id ∉ s.evicted.map Job.id)
include account there

theorem kept_write (now : Moment) :
    (s.write now job).kept = standing (writes ++ [⟨job, now.elapsed⟩]) (s.write now job).evicted := by
  have last : standing (writes ++ [⟨job, now.elapsed⟩]) s.evicted =
      (standing writes s.evicted).filter (fun w => w.job.id != job.id) ++ [⟨job, now.elapsed⟩] := standing_written there
  rw [← account.kept] at last
  exact last.symm

theorem last_write (now : Moment) : ∀ j ∈ (s.write now job).evicted,
    ∃ k ∈ lastWrites (writes ++ [⟨job, now.elapsed⟩]), k.job = j := by
  intro j gone
  obtain ⟨k, last, rfl⟩ := account.last j gone
  have other : k.job.id ≠ job.id := fun same => there (same ▸ List.mem_map_of_mem gone)
  rw [lastWrites_append]
  exact ⟨k, List.mem_append_left _ (List.mem_filter.mpr ⟨last, by simpa using other⟩), rfl⟩

end Write

/-- A job that is written again. -/
theorem write_known {old : Job} (account : Accounted writes made s) (distinct : made.Nodup)
    (known : s.find? job.id = some old) (now : Moment) :
    Accounted (writes ++ [⟨job, now.elapsed⟩]) made (s.write now job) := by
  have ids := account.nodup distinct
  obtain ⟨unlike, -, apart⟩ := List.nodup_append.mp ids
  obtain ⟨k, found, -⟩ := find?_eq_some_iff.mp known
  have inside : job.id ∈ s.kept.map fun k => k.job.id :=
    List.mem_map.mpr ⟨k, List.mem_of_find?_eq_some found, by simpa using List.find?_some found⟩
  have there : job.id ∉ s.evicted.map Job.id := fun gone => apart _ inside _ gone rfl
  refine ⟨account.kept_write there now, ?_, account.last_write there now⟩
  refine List.Perm.trans (List.Perm.append_right _ ?_) account.everyone
  have others : (s.kept.filter fun k => k.job.id != job.id).map (fun k => k.job.id) =
      (s.kept.map fun k => k.job.id).erase job.id := by
    rw [unlike.erase_eq_filter, List.filter_map]
    rfl
  rw [MemoryJobs.write, List.map_append, others]
  exact List.perm_append_comm.trans (List.perm_cons_erase inside).symm

/-- A job that is made. -/
theorem write_new (account : Accounted writes made s) (new : job.id ∉ made) (now : Moment) :
    Accounted (writes ++ [⟨job, now.elapsed⟩]) (made ++ [job.id]) (s.write now job) := by
  have unknown : job.id ∉ s.kept.map (fun k => k.job.id) ++ s.evicted.map Job.id :=
    fun inside => new (account.everyone.mem_iff.mp inside)
  rw [List.mem_append, not_or] at unknown
  refine ⟨account.kept_write unknown.2 now, ?_, account.last_write unknown.2 now⟩
  have others : (s.kept.filter fun k => k.job.id != job.id) = s.kept :=
    List.filter_eq_self.mpr fun k inside => by
      have other : k.job.id ≠ job.id := fun same => unknown.1 (same ▸ List.mem_map_of_mem inside)
      simpa using other
  rw [MemoryJobs.write, others, List.map_append, List.append_assoc]
  refine List.Perm.trans ?_ (account.everyone.append_right _)
  rw [List.append_assoc]
  exact List.perm_append_comm.append_left _

end Accounted

/-! ## Time -/

/-- The account of the times: the writes are in the order of time, and none is later than a moment. -/
structure Timed (writes : List KeptJob) (latest : Nat) : Prop where
  sorted : writes.Pairwise fun a b => a.writtenAt ≤ b.writtenAt
  past : ∀ k ∈ writes, k.writtenAt ≤ latest

theorem Timed.later {latest later : Nat} (timed : Timed writes latest) (le : latest ≤ later) : Timed writes later :=
  ⟨timed.sorted, fun k inside => Nat.le_trans (timed.past k inside) le⟩

theorem Timed.written {latest : Nat} (timed : Timed writes latest) (job : Job) :
    Timed (writes ++ [⟨job, latest⟩]) latest := by
  constructor
  · rw [List.pairwise_append]
    refine ⟨timed.sorted, List.pairwise_singleton _ _, ?_⟩
    intro k inside new isNew
    rw [List.mem_singleton.mp isNew]
    exact timed.past k inside
  · intro k inside
    rcases List.mem_append.mp inside with before | new
    · exact timed.past k before
    · exact Nat.le_of_eq (congrArg KeptJob.writtenAt (List.mem_singleton.mp new))

theorem Timed.sublist {latest : Nat} {some_ : List KeptJob} (timed : Timed writes latest)
    (sublist : some_.Sublist writes) : Timed some_ latest :=
  ⟨timed.sorted.sublist sublist, fun k inside => timed.past k (sublist.mem inside)⟩

/-- Where whatever comes before something that has a property has it too, the first things are all that have it. -/
theorem cut_eq_filter {α : Type} {p : α → Bool} {xs : List α}
    (closed : xs.Pairwise fun a b => p b = true → p a = true) :
    xs.take (xs.takeWhile p).length = xs.filter p ∧ xs.drop (xs.takeWhile p).length = xs.filter fun x => !p x := by
  induction xs with
  | nil => exact ⟨rfl, rfl⟩
  | cons x xs ih =>
      rw [List.pairwise_cons] at closed
      obtain ⟨first, others⟩ := ih closed.2
      cases here : p x with
      | true => simp [here, first, others]
      | false =>
          have none_ : ∀ y ∈ xs, p y = false := fun y inside => by
            cases there : p y with
            | false => rfl
            | true => exact absurd (closed.1 y inside there) (by simp [here])
          have left : xs.filter (fun x => !p x) = xs := List.filter_eq_self.mpr (by simpa using none_)
          simp +contextual [here, none_, left]

/-- The jobs that were last written at least the retention ago. -/
def old (limits : JobLimits) (now : Moment) (s : MemoryJobs) : List KeptJob :=
  s.kept.filter fun k => k.writtenAt + limits.retention ≤ now.elapsed

/-- The jobs that were last written less than the retention ago. -/
def young (limits : JobLimits) (now : Moment) (s : MemoryJobs) : List KeptJob :=
  s.kept.filter fun k => ¬ k.writtenAt + limits.retention ≤ now.elapsed

/-- What expires are exactly the jobs that are old. -/
theorem expire_eq (limits : JobLimits) (timed : Timed s.kept now.elapsed) :
    s.expire limits now = ⟨s.young limits now, s.evicted ++ (s.old limits now).map KeptJob.job⟩ := by
  have due (k : KeptJob) (inside : k ∈ s.kept) :
      isExpired limits now k = decide (k.writtenAt + limits.retention ≤ now.elapsed) := by
    have past := timed.past k inside
    rw [isExpired, decide_eq_decide]
    omega
  have closed : s.kept.Pairwise fun a b => isExpired limits now b = true → isExpired limits now a = true := by
    refine timed.sorted.imp fun le there => ?_
    simp only [isExpired, decide_eq_true_eq] at there ⊢
    omega
  obtain ⟨first, others⟩ := cut_eq_filter closed
  rw [expire, evictFirst, first, others, old, young, List.filter_congr due,
    List.filter_congr fun k inside => by rw [due k inside, ← decide_not]]

/-! ## Uses -/

/-- The writes once a use has been made, which changes the records that are not gone by then. -/
def writesAfter (limits : JobLimits) (u : JobUse) (now : Moment) (s : MemoryJobs) (writes : List KeptJob) :
    List KeptJob :=
  writes ++ ((u.written? (recordOf writes (s.expire limits now).evicted) now.time).map (⟨·, now.elapsed⟩)).toList

/-- The store after uses of it one after another, each at its moment, and the writes that were made. -/
def course (limits : JobLimits) (uses : List (JobUse × Moment)) : MemoryJobs × List KeptJob :=
  uses.foldl (fun x use => (x.1.use limits use.1 use.2, writesAfter limits use.1 use.2 x.1 x.2)) (.empty, [])

/-- What a whole course keeps up: the accounts are right, and there is room. -/
structure Kept (limits : JobLimits) (writes : List KeptJob) (made : List String) (latest : Nat) (s : MemoryJobs) :
    Prop where
  account : Accounted writes made s
  timed : Timed writes latest
  room : s.size ≤ limits.maxJobs

namespace Kept

variable {latest : Nat} {u : JobUse}

theorem empty (limits : JobLimits) : Kept limits [] [] 0 .empty where
  account := .empty
  timed := ⟨.nil, List.forall_mem_nil _⟩
  room := Nat.zero_le _

theorem timed_kept (keeps : Kept limits writes made latest s) : Timed s.kept latest := by
  rw [keeps.account.kept]
  exact keeps.timed.sublist (standing_sublist _ _)

theorem later {later : Nat} (keeps : Kept limits writes made latest s) (le : latest ≤ later) :
    Kept limits writes made later s :=
  { keeps with timed := keeps.timed.later le }

theorem expire (keeps : Kept limits writes made latest s) (distinct : made.Nodup) (now : Moment) :
    Kept limits writes made latest (s.expire limits now) where
  account := keeps.account.evictFirst distinct _
  timed := keeps.timed
  room := by
    rw [MemoryJobs.expire, size_evictFirst]
    exact Nat.le_trans (Nat.sub_le _ _) keeps.room

/-- The record of a job is what is found in the store. -/
theorem record_eq (keeps : Kept limits writes made latest s) : recordOf writes s.evicted = s.find? := by
  funext id
  rw [recordOf, ← keeps.account.kept, find?]

/-- A job that is written: only one that is made takes more room. -/
theorem written (keeps : Kept limits writes made now.elapsed s) (distinct : (made ++ u.made?.toList).Nodup)
    (written : u.written? s.find? now.time = some job) :
    Accounted (writes ++ [⟨job, now.elapsed⟩]) (made ++ u.made?.toList) (s.write now job) ∧
      (s.write now job).size ≤ s.size + u.made?.toList.length := by
  cases makes : u.made? with
  | none =>
      obtain ⟨id, old, known, moves, -⟩ := JobUse.advances_of_written written makes
      have there : s.find? job.id = some old := by rwa [moves.id, id_of_find? known]
      rw [makes, Option.toList_none, List.append_nil] at distinct
      rw [Option.toList_none, List.append_nil]
      exact ⟨keeps.account.write_known distinct there now, size_write_of_found there⟩
  | some id =>
      rw [JobUse.written_of_made makes, Option.some_inj] at written
      rw [makes, Option.toList_some] at distinct
      rw [Option.toList_some]
      subst written
      have new : id ∉ made := fun inside => (List.nodup_append.mp distinct).2.2 id inside id List.mem_cons_self rfl
      exact ⟨keeps.account.write_new new now, s.size_write_le now _⟩

/-- A use keeps everything up, and drops, besides what has expired, at most the first of the jobs if one was made
    that there was no room for. -/
theorem use (keeps : Kept limits writes made latest s) (clock : latest ≤ now.elapsed)
    (distinct : (made ++ u.made?.toList).Nodup) :
    Kept limits (writesAfter limits u now s writes) (made ++ u.made?.toList) now.elapsed (s.use limits u now) ∧
      ∃ dropped : List KeptJob,
        (s.use limits u now).evicted = (s.expire limits now).evicted ++ dropped.map KeptJob.job ∧
        standing (writesAfter limits u now s writes) (s.expire limits now).evicted =
          dropped ++ (s.use limits u now).kept ∧
        (dropped = [] ∨ u.made?.isSome ∧ dropped.length = 1 ∧ (s.use limits u now).size = limits.maxJobs) := by
  have expired := (keeps.later clock).expire (List.nodup_append.mp distinct).1 now
  rw [use_eq keeps.room, writesAfter, expired.record_eq]
  cases change : u.written? (s.expire limits now).find? now.time with
  | none =>
      have unmade : u.made? = none := by
        cases makes : u.made? with
        | none => rfl
        | some id =>
            rw [JobUse.written_of_made makes] at change
            cases change
      rw [unmade]
      simp only [Option.map_none, Option.toList_none, List.append_nil]
      exact ⟨expired, [], (List.append_nil _).symm, expired.account.kept.symm, .inl rfl⟩
  | some job =>
      obtain ⟨account, grown⟩ := expired.written distinct change
      have room := expired.room
      have left := size_evictFirst (((s.expire limits now).write now job).size - limits.maxJobs)
        ((s.expire limits now).write now job)
      refine ⟨⟨account.evictFirst distinct _, expired.timed.written job, ?_⟩, _, rfl, ?_, ?_⟩
      · exact Nat.le_trans (Nat.le_of_eq left) (by omega)
      · exact account.kept.symm.trans (List.take_append_drop _ _).symm
      · rcases Nat.eq_zero_or_pos (((s.expire limits now).write now job).size - limits.maxJobs) with enough | much
        · left
          rw [enough, List.take_zero]
        · right
          cases makes : u.made? with
          | none =>
              rw [makes, Option.toList_none, List.length_nil] at grown
              omega
          | some id =>
              rw [makes, Option.toList_some, List.length_singleton] at grown
              refine ⟨rfl, ?_, left.trans (by omega)⟩
              rw [List.length_take, ← size]
              omega

end Kept

theorem course_append (uses : List (JobUse × Moment)) (u : JobUse) (now : Moment) :
    course limits (uses ++ [(u, now)]) = ((course limits uses).1.use limits u now,
      writesAfter limits u now (course limits uses).1 (course limits uses).2) := by
  rw [course, List.foldl_append]
  rfl

/-- After any uses everything is kept up. -/
theorem kept_course (limits : JobLimits) {uses : List (JobUse × Moment)} {latest : Nat}
    (clock : uses.Pairwise fun a b => a.2.elapsed ≤ b.2.elapsed) (past : ∀ use ∈ uses, use.2.elapsed ≤ latest)
    (distinct : (JobUse.madeBy uses).Nodup) :
    Kept limits (course limits uses).2 (JobUse.madeBy uses) latest (course limits uses).1 := by
  induction uses using List.reverseRecOn generalizing latest with
  | nil => exact (Kept.empty limits).later (Nat.zero_le _)
  | append_singleton uses last ih =>
      obtain ⟨u, now⟩ := last
      obtain ⟨clock, -, before⟩ := List.pairwise_append.mp clock
      rw [JobUse.madeBy_append] at distinct ⊢
      rw [course_append]
      have earlier := (List.nodup_append.mp distinct).1
      have keeps := ih clock (fun use inside => before use inside _ List.mem_cons_self) earlier
      exact (keeps.use (Nat.le_refl _) distinct).1.later (past (u, now) (List.mem_append_right _ List.mem_cons_self))

end MemoryJobs

open MemoryJobs in
/-- Account of the jobs in memory, whatever is done with the store as the clock goes on, and at any moment of it. The
    jobs that are kept are the last writes of those that have not gone, in their order; every job that was made is kept
    or has gone, just one of these, and it has gone with its last record. Before a use, those that are old go; after it,
    at most the first of all, and only for a job that is made. -/
theorem every_job_accounted_for (limits : JobLimits) (uses : List (JobUse × Moment)) (u : JobUse) (now : Moment)
    (clock : (uses ++ [(u, now)]).Pairwise fun a b => a.2.elapsed ≤ b.2.elapsed)
    (distinct : (JobUse.madeBy (uses ++ [(u, now)])).Nodup) :
    let s := (course limits uses).1
    let t := (course limits (uses ++ [(u, now)])).1
    let writes := (course limits (uses ++ [(u, now)])).2
    let gone := s.evicted ++ (s.old limits now).map KeptJob.job
    t = s.use limits u now ∧
      (t.kept = standing writes t.evicted ∧ t.kept.Pairwise fun a b => a.writtenAt ≤ b.writtenAt) ∧
      t.size ≤ limits.maxJobs ∧
      ((t.kept.map (fun k => k.job.id) ++ t.evicted.map Job.id).Perm (JobUse.madeBy (uses ++ [(u, now)])) ∧
        ∀ j ∈ t.evicted, ∃ k ∈ lastWrites writes, k.job = j) ∧
      (∃ dropped : List KeptJob, t.evicted = gone ++ dropped.map KeptJob.job ∧
        standing writes gone = dropped ++ t.kept ∧
        (dropped = [] ∨ u.made?.isSome ∧ dropped.length = 1 ∧ t.size = limits.maxJobs)) ∧
      s.evictExpired limits now = ((s.old limits now).length, ⟨s.young limits now, gone⟩) ∧
      ∀ id, ∃ found, (((store limits).find? id).on (s, now)).1 = .ok found ∧
        ∀ j, found = some j ↔ ∃ k ∈ s.young limits now, k.job = j ∧ j.id = id := by
  rw [course_append]
  rw [JobUse.madeBy_append] at distinct ⊢
  obtain ⟨sorted, -, before⟩ := List.pairwise_append.mp clock
  have keeps := kept_course limits sorted (fun use inside => before use inside _ List.mem_cons_self)
    (List.nodup_append.mp distinct).1
  have expired := expire_eq limits keeps.timed_kept
  have unlike := ((keeps.expire (List.nodup_append.mp distinct).1 now).account.nodup
    (List.nodup_append.mp distinct).1).sublist (List.sublist_append_left _ _)
  have found (id : String) (j : Job) := find?_iff unlike id j
  obtain ⟨kept, dropped, gone, left, few⟩ := keeps.use (u := u) (Nat.le_refl _) distinct
  rw [expired] at gone left found
  refine ⟨rfl, ⟨kept.account.kept, kept.timed_kept.sorted⟩, kept.room, ⟨kept.account.everyone, kept.account.last⟩,
    ⟨dropped, gone, left, few⟩, ?_, ?_⟩
  · rw [evictExpired, expired]
    simp
  · intro id
    exact ⟨_, congrArg (fun e : MemoryJobs => (.ok (e.find? id) : Except ExportError (Option Job))) expired, found id⟩

/-- Three jobs in a store that has room for two, of which the first is written to again before the last is made. -/
def threeJobs : List (JobUse × Moment) :=
  [.call (.create "a"), .call (.create "b"), .call (.setProgress "a" 3 1), .call (.create "c")].mapIdx fun n use =>
    (use, ⟨n, leapDay⟩)

open MemoryJobs in
theorem every_job_accounted_for_three :
    let t := (course (.of 10 2) (threeJobs ++ [(.dropExpired, ⟨12, leapDay⟩)])).1
    (t.kept.map fun k => k.job.id) = ["c"] ∧ t.evicted.map Job.id = ["b", "a"] ∧
      ((t.kept.map (fun k => k.job.id) ++ t.evicted.map Job.id).Perm ["a", "b", "c"] ∧
        ∀ j ∈ t.evicted, ∃ k ∈ lastWrites (course (.of 10 2) (threeJobs ++ [(.dropExpired, ⟨12, leapDay⟩)])).2,
          k.job = j) :=
  ⟨by decide, by decide,
    (every_job_accounted_for (.of 10 2) threeJobs .dropExpired ⟨12, leapDay⟩ (by decide) (by decide)).2.2.2.1⟩

end SheetExport
