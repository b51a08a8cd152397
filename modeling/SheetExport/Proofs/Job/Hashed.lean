import SheetExport.Job.Hashed
import SheetExport.Proofs.Job.HashTable
import SheetExport.Proofs.Job.Record

/-! # Jobs in a table of hashes

What the calls of a store of jobs do to the table in which it keeps them, as long as nothing in the table has expired.
A job is written by writing some of its fields and putting off the time at which it goes.
-/

namespace SheetExport.HashedJobs

/-- The store that keeps jobs as hashes in a table, by the clock of the table. -/
def inTable (h : HashedJobs) : JobStore (HashTable × Moment) := h.store HashTable.store fun s => s.2.time

variable {h : HashedJobs} {id : String} {t : HashTable} {now : Moment}

theorem key_injective (h : HashedJobs) {id other : String} (same : h.key id = h.key other) : id = other := by
  rw [key, key] at same
  have chars := congrArg String.toList same
  rw [String.toList_append, String.toList_append, List.append_cancel_left_eq] at chars
  exact String.toList_inj.mp chars

/-! ## Writing -/

/-- The table after some fields of a job were written and its time was put off, if the clock can tell until when. -/
def noted (h : HashedJobs) (id : String) (fields : Fields) (now : Moment) (t : HashTable) : HashTable :=
  ((t.write (h.key id) fields).postpone now (h.key id) h.retention).2

/-- When a job goes that is written at a moment, if its time can be put off, or was to go before. -/
def goesAt? (h : HashedJobs) (now : Moment) (before : Option Nat) : Option Nat :=
  if now.Tells h.retention then some (now.elapsed + h.retention) else before

/-- What a call comes to that puts off the time of a job that is there. -/
def touched (h : HashedJobs) (now : Moment) : Except ExportError Unit :=
  if now.Tells h.retention then .ok () else .error HashTable.beyondClock

theorem touched_of_tells (tells : now.Tells h.retention) : h.touched now = .ok () := if_pos tells

/-- The fields of a job in the table; none if there is no such job. -/
def fieldsOf (h : HashedJobs) (id : String) (t : HashTable) : Fields :=
  ((Keyed.find? t (h.key id)).map TableEntry.fields).getD []

theorem find?_noted (h : HashedJobs) (id : String) (fields : Fields) (now : Moment) (t : HashTable) (other : String) :
    Keyed.find? (h.noted id fields now t) other =
      if other = h.key id then some ⟨(h.fieldsOf id t).insertAll fields,
        h.goesAt? now ((Keyed.find? t (h.key id)).bind TableEntry.expiresAt)⟩
      else Keyed.find? t other := by
  rw [noted, HashTable.postpone, goesAt?, fieldsOf]
  split
  · rw [HashTable.find?_schedule, HashTable.find?_write, HashTable.find?_write, if_pos rfl]
    split
    · cases Keyed.find? t (h.key id) <;> rfl
    · rfl
  · rw [HashTable.find?_write]
    split
    · cases Keyed.find? t (h.key id) <;> rfl
    · rfl

theorem putAll_on_live (h : HashedJobs) (id : String) (fields : Fields) (live : t.Live now) :
    ((Dialogue.putAll (h.key id) fields (h.touch id)).hold HashTable.store).on (t, now) =
      (h.touched now, h.noted id fields now t, now) := by
  have first := HashTable.on_putAll_live live (h.key id) fields
  have second := HashTable.on_expire_live (HashTable.live_write live (h.key id) fields) (h.key id) h.retention
  have there : (Keyed.find? (t.write (h.key id) fields) (h.key id)).isSome = true := by
    rw [HashTable.find?_write, if_pos rfl, Option.isSome_some]
  rw [Dialogue.hold, ActionOf.on_bind_ok first, touch, Dialogue.hold, ActionOf.on_bind, second, noted, touched,
    HashTable.postpone, there]
  by_cases tells : now.Tells h.retention
  · simp only [if_pos tells]
    rfl
  · simp only [if_neg tells, if_true]

theorem put_on_live (h : HashedJobs) (id field value : String) (live : t.Live now) :
    ((Dialogue.put (h.key id) field value (h.touch id)).hold HashTable.store).on (t, now) =
      (h.touched now, h.noted id [(field, value)] now t, now) :=
  putAll_on_live h id [(field, value)] live

/-! ## Calls -/

theorem on_timed {σ α : Type} (hashes : HashStore σ) (clock : σ → Timestamp) (d : Timestamp → Dialogue α) (s : σ) :
    (store.timed hashes clock d).on s = ((d (clock s)).hold hashes).on s := by
  rw [store.timed, ActionOf.on_get_bind]

theorem create_on_live (h : HashedJobs) (id : String) (live : t.Live now) :
    (h.inTable.create id).on (t, now) = (h.touched now, h.noted id (Job.freshFields id now.time) now t, now) :=
  (on_timed _ _ _ _).trans (putAll_on_live h id _ live)

theorem find?_on_live (h : HashedJobs) (id : String) (live : t.Live now) :
    (h.inTable.find? id).on (t, now) = (.ok (Job.ofFields? id (h.fieldsOf id t) now.time), t, now) := by
  refine (on_timed _ _ _ _).trans ?_
  rw [find?, Dialogue.hold, ActionOf.on_bind_ok (HashTable.on_entries_live live _)]
  rfl

theorem cancelRequested_on_live (h : HashedJobs) (id : String) (live : t.Live now) :
    (h.inTable.cancelRequested id).on (t, now) =
      (.ok (t.value (h.key id) JobField.cancelRequested.name == some (Job.boolText true)), t, now) := by
  change ((h.cancelRequested id).hold HashTable.store).on (t, now) = _
  rw [cancelRequested, Dialogue.hold, ActionOf.on_bind_ok (HashTable.on_find?_live live _ _)]
  rfl

section Known

variable {e : TableEntry} (found : Keyed.find? t (h.key id) = some e)
include found

theorem setStatus_on_known {current status : JobStatus} {locator errorMessage : Option String}
    (live : t.Live now) (kept : e.fields.find? JobField.status.name = some current.name) :
    (h.inTable.setStatus id status locator errorMessage).on (t, now) =
      if current.transitionTo status = .apply
        then (h.touched now, h.noted id (Job.statusFields status locator errorMessage now.time) now t, now)
        else (.ok (), t, now) := by
  have value : t.value (h.key id) JobField.status.name = some current.name := by
    rw [HashTable.value, found]
    exact kept
  refine (on_timed _ _ _ _).trans ?_
  rw [setStatus, Dialogue.hold, ActionOf.on_bind_ok (HashTable.on_find?_live live _ _), value, Option.bind_some,
    JobStatus.ofName?_name]
  cases wish : current.transitionTo status with
  | apply =>
      simp only [wish]
      exact putAll_on_live h id _ live
  | unchanged =>
      simp only [wish]
      rfl
  | rejected =>
      simp only [wish]
      rfl

theorem setProgress_on_known (rows batches : Nat) (live : t.Live now) :
    (h.inTable.setProgress id rows batches).on (t, now) =
      (h.touched now, h.noted id (Job.progressFields rows batches) now t, now) := by
  change ((h.setProgress id rows batches).hold HashTable.store).on (t, now) = _
  rw [setProgress, Dialogue.hold, ActionOf.on_bind_ok (HashTable.on_contains_live live _), found]
  exact putAll_on_live h id _ live

theorem requestCancel_on_known (live : t.Live now) :
    (h.inTable.requestCancel id).on (t, now) =
      (h.touched now, h.noted id [(JobField.cancelRequested.name, Job.boolText true)] now t, now) := by
  change ((h.requestCancel id).hold HashTable.store).on (t, now) = _
  rw [requestCancel, Dialogue.hold, ActionOf.on_bind_ok (HashTable.on_contains_live live _), found]
  exact put_on_live h id _ _ live

end Known

section Unknown

variable (gone : Keyed.find? t (h.key id) = none) (live : t.Live now)
include gone live

theorem setStatus_on_unknown (status : JobStatus) (locator errorMessage : Option String) :
    (h.inTable.setStatus id status locator errorMessage).on (t, now) = (.ok (), t, now) := by
  refine (on_timed _ _ _ _).trans ?_
  rw [setStatus, Dialogue.hold, ActionOf.on_bind_ok (HashTable.on_find?_live live _ _), HashTable.value, gone]
  rfl

theorem setProgress_on_unknown (rows batches : Nat) :
    (h.inTable.setProgress id rows batches).on (t, now) = (.ok (), t, now) := by
  change ((h.setProgress id rows batches).hold HashTable.store).on (t, now) = _
  rw [setProgress, Dialogue.hold, ActionOf.on_bind_ok (HashTable.on_contains_live live _), gone]
  rfl

theorem requestCancel_on_unknown :
    (h.inTable.requestCancel id).on (t, now) = (.ok (), t, now) := by
  change ((h.requestCancel id).hold HashTable.store).on (t, now) = _
  rw [requestCancel, Dialogue.hold, ActionOf.on_bind_ok (HashTable.on_contains_live live _), gone]
  rfl

end Unknown

end SheetExport.HashedJobs
