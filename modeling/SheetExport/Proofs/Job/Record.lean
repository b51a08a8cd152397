import SheetExport.Job.Hashed
import SheetExport.Proofs.Job.HashTable
import SheetExport.Proofs.Job.Memory
import SheetExport.Proofs.Text.Numeral

/-! # The record of a job

Whatever keeps it, the record of a job changes in the same way, as long as it is not evicted and does not expire.
`Holds` says so of either place: which record is kept there, and that it is not about to go.
-/

namespace SheetExport

/-- What of the record of a job decides how the work on it goes, and what came of it. -/
structure JobView where
  status : JobStatus
  rows : Nat
  batches : Nat
  cancelRequested : Bool
  deriving DecidableEq

def Job.view (j : Job) : JobView := ⟨j.status, j.rows, j.batches, j.cancelRequested⟩

theorem JobStatus.ofName?_name (s : JobStatus) : ofName? s.name = some s := by
  cases s <;> decide

theorem JobStatus.not_terminal_of_apply {current wanted : JobStatus} (h : current.transitionTo wanted = .apply) :
    current.isTerminal = false := by
  revert h
  cases current <;> cases wanted <;> decide

theorem Job.apply_of_moveTo? {j k : Job} {status : JobStatus} {locator errorMessage : Option String} {now : Timestamp}
    (changed : j.moveTo? status locator errorMessage now = some k) : j.status.transitionTo status = .apply := by
  rw [moveTo?] at changed
  split at changed
  · assumption
  · cases changed
  · cases changed

theorem Job.id_of_moveTo? {j k : Job} {status : JobStatus} {locator errorMessage : Option String} {now : Timestamp}
    (changed : j.moveTo? status locator errorMessage now = some k) : k.id = j.id := by
  rw [moveTo?, apply_of_moveTo? changed] at changed
  cases changed
  rfl

theorem Job.moveTo?_view {j : Job} {status : JobStatus} (apply : j.status.transitionTo status = .apply)
    (locator errorMessage : Option String) (now : Timestamp) :
    ∃ k, j.moveTo? status locator errorMessage now = some k ∧ k.id = j.id ∧ k.view = { j.view with status } := by
  rw [Job.moveTo?, apply]
  exact ⟨_, rfl, rfl, rfl⟩

/-! ## In memory -/

namespace MemoryJobs

variable {limits : JobLimits} {id : String} {v v' : JobView} {s : MemoryJobs} {now : Moment}

/-- The record of a job in memory, which is not too old, and there are not too many. -/
def Holds (limits : JobLimits) (id : String) (v : JobView) (s : MemoryJobs × Moment) : Prop :=
  (∃ k, s.1.kept.find? (fun k => k.job.id == id) = some k ∧ isExpired limits s.2 k = false ∧ k.job.view = v) ∧
    s.1.size ≤ limits.maxJobs

theorem holds_iff : Holds limits id v (s, now) ↔
    ∃ job, Holding limits job (s, now) ∧ job.id = id ∧ job.view = v := by
  constructor
  · rintro ⟨⟨k, found, fresh, view⟩, room⟩
    have named : k.job.id = id := by simpa using List.find?_some found
    exact ⟨k.job, ⟨⟨k, named ▸ found, fresh, rfl⟩, room⟩, named, view⟩
  · rintro ⟨job, ⟨⟨k, found, fresh, same⟩, room⟩, rfl, view⟩
    exact ⟨⟨k, found, fresh, same ▸ view⟩, room⟩

theorem expire_holds (h : Holds limits id v (s, now)) : Holds limits id v (s.expire limits now, now) := by
  obtain ⟨job, holding, named, view⟩ := holds_iff.mp h
  exact holds_iff.mpr ⟨job, holding.expire, named, view⟩

/-- A job that is changed is kept as changed. -/
theorem update_holds {f : Job → Option Job} (h : Holds limits id v (s, now))
    (changes : ∀ j : Job, j.view = v → ∃ k, f j = some k ∧ k.id = j.id ∧ k.view = v') :
    Holds limits id v' (update limits id f now s, now) := by
  obtain ⟨job, holding, rfl, view⟩ := holds_iff.mp h
  obtain ⟨k, changed, same, view'⟩ := changes job view
  have updated := holding.update (f := f) fun a made => by
    rw [changed] at made
    cases made
    exact same
  rw [changed] at updated
  exact holds_iff.mpr ⟨k, updated, same, view'⟩

theorem look_on (h : Holds limits id v (s, now)) :
    ∃ job, (look limits id).on (s, now) = (.ok (some job), s.expire limits now, now) ∧ job.view = v := by
  obtain ⟨job, holding, rfl, view⟩ := holds_iff.mp h
  exact ⟨job, holding.look, view⟩

end MemoryJobs

/-! ## As hashes -/

namespace HashedJobs

variable {σ : Type} {h : HashedJobs} {hashes : HashStore σ} {kept : String → (String → Option String) → σ → Prop}
  {id : String} {v v' : JobView} {s : σ}

/-- What the fields of a record say. -/
def fieldText (v : JobView) : JobField → Option String
  | .status => some v.status.name
  | .rows => some (toString v.rows)
  | .batches => some (toString v.batches)
  | .cancelRequested => some (Job.boolText v.cancelRequested)
  | _ => none

/-- The record of a job as a hash that is kept. -/
def Holds (h : HashedJobs) (kept : String → (String → Option String) → σ → Prop) (id : String) (v : JobView) (s : σ) :
    Prop :=
  ∃ values, kept (h.key id) values s ∧ ∀ field text, fieldText v field = some text → values field.name = some text

/-- Writing some fields turns what a record says into something else. -/
def Writes (fields : Fields) (v v' : JobView) : Prop :=
  ∀ field, (fieldText v' field).isSome → overwritten (fun _ => fieldText v field) fields field.name = fieldText v' field

theorem Writes.texts {fields : Fields} (writes : Writes fields v v') {values : String → Option String}
    (texts : ∀ field text, fieldText v field = some text → values field.name = some text) :
    ∀ field text, fieldText v' field = some text → overwritten values fields field.name = some text := by
  intro field text named
  have after := writes field (by rw [named]; rfl)
  rw [named, overwritten] at after
  rw [overwritten]
  cases wrote : Keyed.find? fields.reverse field.name with
  | some text' => rwa [wrote] at after
  | none =>
      rw [wrote, Option.none_or] at after
      exact texts field text after

theorem statusFields_writes (v : JobView) (status : JobStatus) (locator errorMessage : Option String)
    (time : Timestamp) : Writes (Job.statusFields status locator errorMessage time) v { v with status } := by
  intro field present
  cases field with
  | status | rows | batches | cancelRequested => cases locator <;> cases errorMessage <;> rfl
  | id | locator | errorMessage | createdAt | completedAt => cases present

theorem progressFields_writes (v : JobView) (rows batches : Nat) :
    Writes (Job.progressFields rows batches) v { v with rows, batches } := by
  intro field present
  cases field with
  | status | rows | batches | cancelRequested => rfl
  | id | locator | errorMessage | createdAt | completedAt => cases present

theorem cancelField_writes (v : JobView) :
    Writes [(JobField.cancelRequested.name, Job.boolText true)] v { v with cancelRequested := true } := by
  intro field present
  cases field with
  | status | rows | batches | cancelRequested => rfl
  | id | locator | errorMessage | createdAt | completedAt => cases present

/-- What is written of a record is read back. -/
theorem ofFields?_view (id : String) {fields : Fields} (texts : ∀ field text, fieldText v field = some text →
    fields.find? field.name = some text) (rows : v.rows < 2 ^ 64) (batches : v.batches < 2 ^ 64) (time : Timestamp) :
    (Job.ofFields? id fields time).map Job.view = some v := by
  have cancel : (some (Job.boolText v.cancelRequested) == some (Job.boolText true)) = v.cancelRequested := by
    cases v.cancelRequested <;> rfl
  simp only [Job.ofFields?, texts .status _ rfl, texts .rows _ rfl, texts .batches _ rfl,
    texts .cancelRequested _ rfl, Option.bind_some, JobStatus.ofName?_name, Text.readWord?_toString rows,
    Text.readWord?_toString batches, cancel]
  rfl

section Calls

variable (keeps : hashes.Keeps h.retention kept)
include keeps

section Kept

variable {values : String → Option String} (there : kept (h.key id) values s)
include there

/-- Fields are written, and the hash is kept for longer. -/
theorem putAll_kept (fields : Fields) :
    ∃ t, ((Dialogue.putAll (h.key id) fields (h.touch id)).hold hashes).on s = (.ok (), t) ∧
      kept (h.key id) (overwritten values fields) t := by
  obtain ⟨t, wrote, there⟩ := keeps.putAll there fields
  obtain ⟨u, touched, there⟩ := keeps.expire there
  exact ⟨u, (ActionOf.on_bind_ok wrote _).trans (ActionOf.on_bind_ok touched _), there⟩

theorem put_kept (field value : String) :
    ∃ t, ((Dialogue.put (h.key id) field value (h.touch id)).hold hashes).on s = (.ok (), t) ∧
      kept (h.key id) (overwritten values [(field, value)]) t := by
  obtain ⟨t, wrote, there⟩ := keeps.put there field value
  obtain ⟨u, touched, there⟩ := keeps.expire there
  exact ⟨u, (ActionOf.on_bind_ok wrote _).trans (ActionOf.on_bind_ok touched _), there⟩

theorem setStatus_kept {current : JobStatus} (noted : values JobField.status.name = some current.name)
    (status : JobStatus) (locator errorMessage : Option String) (time : Timestamp) :
    ∃ t, ((h.setStatus id status locator errorMessage time).hold hashes).on s = (.ok (), t) ∧
      kept (h.key id) (match current.transitionTo status with
        | .apply => overwritten values (Job.statusFields status locator errorMessage time)
        | .unchanged | .rejected => values) t := by
  obtain ⟨t, looked, there⟩ := keeps.find? there JobField.status.name
  rw [noted] at looked
  rw [setStatus, Dialogue.hold, ActionOf.on_bind_ok looked, Option.bind_some, JobStatus.ofName?_name]
  dsimp only
  cases current.transitionTo status with
  | apply => exact putAll_kept keeps there _
  | unchanged => exact ⟨t, rfl, there⟩
  | rejected => exact ⟨t, rfl, there⟩

section Known

variable {text : String} (known : values JobField.status.name = some text)
include known

theorem setProgress_kept (rows batches : Nat) :
    ∃ t, ((h.setProgress id rows batches).hold hashes).on s = (.ok (), t) ∧
      kept (h.key id) (overwritten values (Job.progressFields rows batches)) t := by
  obtain ⟨t, answered, there⟩ := keeps.contains there known
  rw [setProgress, Dialogue.hold, ActionOf.on_bind_ok answered]
  exact putAll_kept keeps there _

theorem requestCancel_kept :
    ∃ t, ((h.requestCancel id).hold hashes).on s = (.ok (), t) ∧
      kept (h.key id) (overwritten values [(JobField.cancelRequested.name, Job.boolText true)]) t := by
  obtain ⟨t, answered, there⟩ := keeps.contains there known
  rw [requestCancel, Dialogue.hold, ActionOf.on_bind_ok answered]
  exact put_kept keeps there _ _

end Known

theorem cancelRequested_kept :
    ∃ t, ((h.cancelRequested id).hold hashes).on s =
        (.ok (values JobField.cancelRequested.name == some (Job.boolText true)), t) ∧
      kept (h.key id) values t := by
  obtain ⟨t, looked, there⟩ := keeps.find? there JobField.cancelRequested.name
  exact ⟨t, ActionOf.on_bind_ok looked _, there⟩

theorem find?_kept (time : Timestamp) :
    ∃ fields t, ((h.find? id time).hold hashes).on s = (.ok (Job.ofFields? id fields time), t) ∧
      ∀ field, fields.find? field = values field := by
  obtain ⟨fields, t, looked, -, same⟩ := keeps.entries there
  exact ⟨fields, t, ActionOf.on_bind_ok looked _, same⟩

end Kept

theorem setStatus_on {status : JobStatus} (held : Holds h kept id v s)
    (apply : v.status.transitionTo status = .apply) (locator errorMessage : Option String) (time : Timestamp) :
    ∃ t, ((h.setStatus id status locator errorMessage time).hold hashes).on s = (.ok (), t) ∧
      Holds h kept id { v with status } t := by
  obtain ⟨values, there, texts⟩ := held
  obtain ⟨t, written, there⟩ := setStatus_kept keeps there (texts .status _ rfl) status locator errorMessage time
  rw [apply] at there
  exact ⟨t, written, _, there, (statusFields_writes v status locator errorMessage time).texts texts⟩

theorem setProgress_on (held : Holds h kept id v s) (rows batches : Nat) :
    ∃ t, ((h.setProgress id rows batches).hold hashes).on s = (.ok (), t) ∧
      Holds h kept id { v with rows, batches } t := by
  obtain ⟨values, there, texts⟩ := held
  obtain ⟨t, written, there⟩ := setProgress_kept keeps there (texts .status _ rfl) rows batches
  exact ⟨t, written, _, there, (progressFields_writes v rows batches).texts texts⟩

theorem requestCancel_on (held : Holds h kept id v s) :
    ∃ t, ((h.requestCancel id).hold hashes).on s = (.ok (), t) ∧
      Holds h kept id { v with cancelRequested := true } t := by
  obtain ⟨values, there, texts⟩ := held
  obtain ⟨t, written, there⟩ := requestCancel_kept keeps there (texts .status _ rfl)
  exact ⟨t, written, _, there, (cancelField_writes v).texts texts⟩

theorem cancelRequested_on (held : Holds h kept id v s) :
    ∃ t, ((h.cancelRequested id).hold hashes).on s = (.ok v.cancelRequested, t) ∧ Holds h kept id v t := by
  obtain ⟨values, there, texts⟩ := held
  obtain ⟨t, looked, there⟩ := cancelRequested_kept keeps there
  refine ⟨t, ?_, values, there, texts⟩
  rw [looked, texts .cancelRequested _ rfl]
  cases v.cancelRequested <;> rfl

theorem find?_on (held : Holds h kept id v s) (rows : v.rows < 2 ^ 64) (batches : v.batches < 2 ^ 64)
    (time : Timestamp) :
    ∃ job t, ((h.find? id time).hold hashes).on s = (.ok (some job), t) ∧ job.view = v := by
  obtain ⟨values, there, texts⟩ := held
  obtain ⟨fields, t, looked, same⟩ := find?_kept keeps there time
  obtain ⟨job, read, view⟩ := Option.map_eq_some_iff.mp (ofFields?_view id (v := v)
    (fun field text named => (same field.name).trans (texts field text named)) rows batches time)
  exact ⟨job, t, by rw [looked, read], view⟩

end Calls

end HashedJobs

/-! ## Either place -/

/-- A place where jobs are kept. -/
inductive JobHome where
  | memory (limits : JobLimits)
  | hashed {σ : Type} (h : HashedJobs) (hashes : HashStore σ) (clock : σ → Timestamp)
      (kept : String → (String → Option String) → σ → Prop) (keeps : hashes.Keeps h.retention kept)

namespace JobHome

def State : JobHome → Type
  | memory _ => MemoryJobs × Moment
  | @hashed σ _ _ _ _ _ => σ

def store : (home : JobHome) → JobStore home.State
  | memory limits => MemoryJobs.store limits
  | hashed h hashes clock _ _ => h.store hashes clock

/-- The record of a job, which is neither evicted nor about to expire. -/
def Holds : (home : JobHome) → (id : String) → JobView → home.State → Prop
  | memory limits => MemoryJobs.Holds limits
  | hashed h _ _ kept _ => HashedJobs.Holds h kept

variable {home : JobHome} {id : String} {v : JobView} {s : home.State}

theorem find?_on (held : home.Holds id v s) (rows : v.rows < 2 ^ 64) (batches : v.batches < 2 ^ 64) :
    ∃ job t, (home.store.find? id).on s = (.ok (some job), t) ∧ job.view = v := by
  cases home with
  | memory limits =>
      obtain ⟨job, looked, view⟩ := MemoryJobs.look_on held
      exact ⟨job, _, looked, view⟩
  | hashed h hashes clock kept keeps => exact HashedJobs.find?_on keeps held rows batches (clock s)

theorem cancelRequested_on (held : home.Holds id v s) :
    ∃ t, (home.store.cancelRequested id).on s = (.ok v.cancelRequested, t) ∧ home.Holds id v t := by
  cases home with
  | memory limits =>
      obtain ⟨job, looked, view⟩ := MemoryJobs.look_on held
      refine ⟨_, ?_, MemoryJobs.expire_holds held⟩
      rw [← view]
      exact ActionOf.on_bind_ok looked _
  | hashed h hashes clock kept keeps => exact HashedJobs.cancelRequested_on keeps held

theorem setStatus_on (held : home.Holds id v s) {status : JobStatus} (apply : v.status.transitionTo status = .apply)
    (locator errorMessage : Option String) :
    ∃ t, (home.store.setStatus id status locator errorMessage).on s = (.ok (), t) ∧
      home.Holds id { v with status } t := by
  cases home with
  | memory limits =>
      exact ⟨_, rfl, MemoryJobs.update_holds held fun j view => by
        subst view
        exact Job.moveTo?_view apply locator errorMessage s.2.time⟩
  | hashed h hashes clock kept keeps => exact HashedJobs.setStatus_on keeps held apply locator errorMessage (clock s)

theorem setProgress_on (held : home.Holds id v s) (rows batches : Nat) :
    ∃ t, (home.store.setProgress id rows batches).on s = (.ok (), t) ∧ home.Holds id { v with rows, batches } t := by
  cases home with
  | memory limits =>
      exact ⟨_, rfl, MemoryJobs.update_holds held fun j view => ⟨_, rfl, rfl, by subst view; rfl⟩⟩
  | hashed h hashes clock kept keeps => exact HashedJobs.setProgress_on keeps held rows batches

theorem requestCancel_on (held : home.Holds id v s) :
    ∃ t, (home.store.requestCancel id).on s = (.ok (), t) ∧ home.Holds id { v with cancelRequested := true } t := by
  cases home with
  | memory limits =>
      exact ⟨_, rfl, MemoryJobs.update_holds held fun j view => ⟨_, rfl, rfl, by subst view; rfl⟩⟩
  | hashed h hashes clock kept keeps => exact HashedJobs.requestCancel_on keeps held

end JobHome

end SheetExport
