import SheetExport.Job.Memory
import SheetExport.Proofs.Action

/-! # Looking up jobs in memory

Which job is found under an id after jobs were written or evicted, in terms of what was found before.
-/

namespace SheetExport.MemoryJobs

variable {limits : JobLimits} {id : String} {s : MemoryJobs} {now : Moment} {job : Job}

theorem find?_eq_some_iff :
    s.find? id = some job ↔ ∃ k, s.kept.find? (fun k => k.job.id == id) = some k ∧ k.job = job :=
  Option.map_eq_some_iff

theorem id_of_find? (found : s.find? id = some job) : job.id = id := by
  obtain ⟨k, kept, rfl⟩ := find?_eq_some_iff.mp found
  simpa using List.find?_some kept

/-- What is written under one id is found there, and nothing changes under the others. -/
theorem find?_write (s : MemoryJobs) (now : Moment) (job : Job) (id : String) :
    (s.write now job).find? id = if id = job.id then some job else s.find? id := by
  rw [find?, write, List.find?_append]
  split
  · rename_i same
    have gone : (s.kept.filter fun k => k.job.id != job.id).find? (fun k => k.job.id == id) = none := by
      rw [List.find?_eq_none]
      intro other inside
      simpa [same] using (List.mem_filter.mp inside).2
    rw [gone]
    simp [same]
  · rename_i other
    have left : (s.kept.filter fun k => k.job.id != job.id).find? (fun k => k.job.id == id) =
        s.kept.find? fun k => k.job.id == id := by
      rw [List.find?_filter]
      congr 1
      funext k
      by_cases here : k.job.id = id
      · simp [here, other]
      · simp [here]
    rw [left, List.find?_singleton, if_neg (by simpa using fun same => other same.symm), Option.or_none, find?]

theorem size_write_le (s : MemoryJobs) (now : Moment) (job : Job) : (s.write now job).size ≤ s.size + 1 := by
  rw [size, write, List.length_append, List.length_singleton]
  exact Nat.succ_le_succ (List.length_filter_le _ _)

/-- A job that is written again takes no more room. -/
theorem size_write_of_found {old : Job} (found : s.find? job.id = some old) : (s.write now job).size ≤ s.size := by
  obtain ⟨k, kept, -⟩ := find?_eq_some_iff.mp found
  have shorter : (s.kept.filter fun k => k.job.id != job.id).length < s.kept.length := by
    rw [List.length_filter_lt_length_iff_exists]
    exact ⟨k, List.mem_of_find?_eq_some kept, by simpa using List.find?_some kept⟩
  rw [size, write, List.length_append, List.length_singleton]
  exact shorter

theorem expire_of_calm (calm : ∀ k ∈ s.kept, isExpired limits now k = false) : s.expire limits now = s := by
  have none_ : s.kept.takeWhile (isExpired limits now) = [] := by
    cases kept : s.kept with
    | nil => rfl
    | cons first rest => exact List.takeWhile_cons_of_neg (by simp [calm first (kept ▸ List.mem_cons_self)])
  rw [expire, none_, evictFirst, List.length_nil, List.drop_zero, List.take_zero, List.map_nil, List.append_nil]

theorem enforceCapacity_of_room (room : s.size ≤ limits.maxJobs) : s.enforceCapacity limits = s := by
  rw [enforceCapacity, Nat.sub_eq_zero_of_le room, evictFirst, List.drop_zero, List.take_zero, List.map_nil,
    List.append_nil]

section Calm

variable (calm : ∀ k ∈ s.kept, isExpired limits now k = false)
include calm

theorem look_of_calm (id : String) : (look limits id).on (s, now) = (.ok (s.find? id), s, now) := by
  rw [show (look limits id).on (s, now) = (.ok ((s.expire limits now).find? id), s.expire limits now, now) from rfl,
    expire_of_calm calm]

theorem create_of_calm (room : s.size < limits.maxJobs) :
    s.create limits id now = s.write now (.fresh id now.time) := by
  rw [create, expire_of_calm calm, enforceCapacity_of_room (Nat.le_trans (size_write_le s now _) room)]

theorem update_of_calm {f : Job → Option Job} (same : ∀ j k, f j = some k → k.id = j.id)
    (room : s.size ≤ limits.maxJobs) :
    s.update limits id f now = match (s.find? id).bind f with
      | some job => s.write now job
      | none => s := by
  rw [update, expire_of_calm calm]
  cases changed : (s.find? id).bind f with
  | none => exact enforceCapacity_of_room room
  | some job =>
      obtain ⟨old, found, made⟩ := Option.bind_eq_some_iff.mp changed
      have here : job.id = id := (same old job made).trans (id_of_find? found)
      exact enforceCapacity_of_room (Nat.le_trans (size_write_of_found (here ▸ found)) room)

end Calm

/-! ## Jobs that stay -/

/-- Only jobs from the front that have expired are dropped, so the first job with an id that has not stays. -/
theorem find?_drop_expired {k : KeptJob} {kept : List KeptJob} (found : kept.find? (fun k => k.job.id == id) = some k)
    (fresh : isExpired limits now k = false) :
    (kept.drop (kept.takeWhile (isExpired limits now)).length).find? (fun k => k.job.id == id) = some k := by
  induction kept with
  | nil => simp at found
  | cons first rest ih =>
      rw [List.find?_cons] at found
      cases expired : isExpired limits now first with
      | false =>
          rw [List.takeWhile_cons_of_neg (by simp [expired]), List.length_nil, List.drop_zero, List.find?_cons, found]
      | true =>
          rw [List.takeWhile_cons_of_pos expired, List.length_cons, List.drop_succ_cons]
          split at found
          · cases found
            rw [fresh] at expired
            cases expired
          · exact ih found

/-- A job is in memory and is not evicted, as it is not too old and there are not too many. -/
def Holding (limits : JobLimits) (job : Job) (s : MemoryJobs × Moment) : Prop :=
  (∃ k, s.1.kept.find? (fun k => k.job.id == job.id) = some k ∧ isExpired limits s.2 k = false ∧ k.job = job) ∧
    s.1.size ≤ limits.maxJobs

namespace Holding

theorem found (holding : Holding limits job (s, now)) : s.find? job.id = some job := by
  obtain ⟨⟨k, found, -, same⟩, -⟩ := holding
  exact find?_eq_some_iff.mpr ⟨k, found, same⟩

theorem expire (holding : Holding limits job (s, now)) : Holding limits job (s.expire limits now, now) := by
  obtain ⟨⟨k, found, fresh, same⟩, room⟩ := holding
  refine ⟨⟨k, find?_drop_expired found fresh, fresh, same⟩, Nat.le_trans ?_ room⟩
  rw [size, MemoryJobs.expire, evictFirst, List.length_drop]
  exact Nat.sub_le _ _

theorem write {new : Job} (holding : Holding limits job (s, now)) (same : new.id = job.id) :
    Holding limits new (s.write now new, now) := by
  have positive : 0 < limits.retention := by
    obtain ⟨⟨k, -, fresh, -⟩, -⟩ := holding
    simp only [isExpired, decide_eq_false_iff_not] at fresh
    omega
  have found : s.find? new.id = some job := same ▸ holding.found
  refine ⟨⟨⟨new, now.elapsed⟩, ?_, ?_, rfl⟩, Nat.le_trans (size_write_of_found found) holding.2⟩
  · have last : (s.kept.filter fun k => k.job.id != new.id).find? (fun k => k.job.id == new.id) = none := by
      rw [List.find?_eq_none]
      intro other inside
      simpa using (List.mem_filter.mp inside).2
    rw [MemoryJobs.write, List.find?_append, last]
    simp
  · simp only [isExpired, Nat.sub_self, decide_eq_false_iff_not]
    omega

theorem update {f : Job → Option Job} (holding : Holding limits job (s, now))
    (same : ∀ k, f job = some k → k.id = job.id) :
    Holding limits ((f job).getD job) (s.update limits job.id f now, now) := by
  rw [MemoryJobs.update, holding.expire.found, Option.bind_some]
  cases changed : f job with
  | none =>
      dsimp only [Option.getD_none]
      rw [enforceCapacity_of_room holding.expire.2]
      exact holding.expire
  | some k =>
      have written := holding.expire.write (same k changed)
      dsimp only [Option.getD_some]
      rw [enforceCapacity_of_room written.2]
      exact written

theorem look (holding : Holding limits job (s, now)) :
    (look limits job.id).on (s, now) = (.ok (some job), s.expire limits now, now) := by
  rw [show (MemoryJobs.look limits job.id).on (s, now) =
    (.ok ((s.expire limits now).find? job.id), s.expire limits now, now) from rfl, holding.expire.found]

end Holding

end SheetExport.MemoryJobs
