import SheetExport.Proofs.Calendar.Timestamp
import SheetExport.Proofs.Job.Record

/-! # Records written in fields

`WrittenIn` says that the fields of a hash tell the record of a job, apart from when it was made and when exactly it
ended. Whatever is done to a record is done to the fields by writing some of them, and what they tell can be read.
-/

namespace SheetExport

/-- What there is to see of the record of a job, apart from times. -/
structure JobSight where
  status : JobStatus
  locator : Option String
  errorMessage : Option String
  rows : Nat
  batches : Nat
  cancelRequested : Bool
  hasEnded : Bool
  deriving DecidableEq, Repr

namespace Job

def sight (j : Job) : JobSight where
  status := j.status
  locator := j.locator
  errorMessage := j.errorMessage
  rows := j.rows
  batches := j.batches
  cancelRequested := j.cancelRequested
  hasEnded := j.completedAt.isSome

/-- A text that a hash can keep; one that is blank counts as none. -/
def Legible (text : Option String) : Prop := ∀ s, text = some s → Text.isBlankText s = false

instance (text : Option String) : Decidable (Legible text) :=
  decidable_of_iff (text.all fun s => !Text.isBlankText s) (by simp [Legible, Option.all_eq_true])

/-- The values of fields tell the record of a job. Only a job that has ended has a time at which it did. -/
structure WrittenIn (values : String → Option String) (j : Job) : Prop where
  status : values JobField.status.name = some j.status.name
  locator : (values JobField.locator.name).filter (!Text.isBlankText ·) = j.locator
  errorMessage : (values JobField.errorMessage.name).filter (!Text.isBlankText ·) = j.errorMessage
  rows : values JobField.rows.name = some (toString j.rows)
  rows_lt : j.rows < 2 ^ 64
  batches : values JobField.batches.name = some (toString j.batches)
  batches_lt : j.batches < 2 ^ 64
  cancelRequested : values JobField.cancelRequested.name = some (boolText j.cancelRequested)
  hasEnded : ((values JobField.completedAt.name).bind Timestamp.read?).isSome = j.completedAt.isSome
  underWay : j.status.isTerminal = false → j.completedAt = none

namespace WrittenIn

variable {values : String → Option String} {j : Job} {now time : Timestamp}

/-- What fields tell of a job can be read, at whatever time. -/
theorem sight_ofFields? (id : String) {fields : Fields} (written : WrittenIn (Keyed.find? fields) j) (now : Timestamp) :
    (Job.ofFields? id fields now).map (fun k => (k.id, k.sight)) = some (id, j.sight) := by
  have cancel : (some (boolText j.cancelRequested) == some (boolText true)) = j.cancelRequested := by
    cases j.cancelRequested <;> rfl
  simp only [Job.ofFields?, written.status, Option.bind_some, JobStatus.ofName?_name, Option.bind_eq_bind, pure,
    Option.map_some, sight, written.locator, written.errorMessage, written.rows, written.batches,
    written.cancelRequested, Text.readWord?_toString written.rows_lt, Text.readWord?_toString written.batches_lt,
    cancel, written.hasEnded, Option.getD_some]

theorem fresh (id other : String) (now time : Timestamp) :
    WrittenIn (overwritten (fun _ => none) (freshFields other now)) (Job.fresh id time) where
  status := rfl
  locator := rfl
  errorMessage := rfl
  rows := rfl
  rows_lt := Nat.two_pow_pos 64
  batches := rfl
  batches_lt := Nat.two_pow_pos 64
  cancelRequested := rfl
  hasEnded := rfl
  underWay _ := rfl

theorem overwritten_statusFields (values : String → Option String) (status : JobStatus)
    (locator errorMessage : Option String) (now : Timestamp) (field : JobField) :
    overwritten values (statusFields status locator errorMessage now) field.name = match field with
      | .status => some status.name
      | .locator => locator.or (values JobField.locator.name)
      | .errorMessage => errorMessage.or (values JobField.errorMessage.name)
      | .completedAt => some (if status.isTerminal then now.write else "")
      | other => values other.name := by
  cases field <;> cases locator <;> cases errorMessage <;> rfl

theorem filter_or_legible {text : Option String} (legible : Legible text) (old : Option String) :
    (text.or old).filter (!Text.isBlankText ·) = (text <|> old.filter (!Text.isBlankText ·)) := by
  cases text with
  | none => rfl
  | some s => simp [legible s rfl]

/-- A change of status is written, and the time at which the job ends can be read again. -/
theorem moved (written : WrittenIn values j) {status : JobStatus} {locator errorMessage : Option String} {k : Job}
    (changed : j.moveTo? status locator errorMessage time = some k) (legible : Legible locator)
    (legible' : Legible errorMessage) (first : 0 ≤ now.date.year) (last : now.date.year ≤ 9999) :
    WrittenIn (overwritten values (statusFields status locator errorMessage now)) k := by
  have apply := apply_of_moveTo? changed
  have underWay := written.underWay (JobStatus.not_terminal_of_apply apply)
  rw [moveTo?, apply] at changed
  obtain rfl := Option.some.inj changed
  have told := overwritten_statusFields values status locator errorMessage now
  constructor
  case status => exact told .status
  case locator => rw [told .locator, filter_or_legible legible, written.locator]
  case errorMessage => rw [told .errorMessage, filter_or_legible legible', written.errorMessage]
  case rows => exact (told .rows).trans written.rows
  case rows_lt => exact written.rows_lt
  case batches => exact (told .batches).trans written.batches
  case batches_lt => exact written.batches_lt
  case cancelRequested => exact (told .cancelRequested).trans written.cancelRequested
  case hasEnded =>
    rw [told .completedAt]
    cases status.isTerminal with
    | true =>
        obtain ⟨u, read⟩ := Timestamp.exists_read?_write now first last
        simp [read]
    | false => simp [underWay, show Timestamp.read? "" = none by decide]
  case underWay =>
    intro open_
    simp only at open_
    simp [open_, underWay]

theorem progressed (written : WrittenIn values j) (rows batches : UInt64) :
    WrittenIn (overwritten values (progressFields rows.toNat batches.toNat))
      { j with rows := rows.toNat, batches := batches.toNat } where
  status := written.status
  locator := written.locator
  errorMessage := written.errorMessage
  rows := rfl
  rows_lt := rows.toNat_lt
  batches := rfl
  batches_lt := batches.toNat_lt
  cancelRequested := written.cancelRequested
  hasEnded := written.hasEnded
  underWay := written.underWay

theorem cancelled (written : WrittenIn values j) :
    WrittenIn (overwritten values [(JobField.cancelRequested.name, boolText true)])
      { j with cancelRequested := true } where
  status := written.status
  locator := written.locator
  errorMessage := written.errorMessage
  rows := written.rows
  rows_lt := written.rows_lt
  batches := written.batches
  batches_lt := written.batches_lt
  cancelRequested := rfl
  hasEnded := written.hasEnded
  underWay := written.underWay

end WrittenIn

end Job

end SheetExport
