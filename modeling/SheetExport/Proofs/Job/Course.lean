import SheetExport.Job.Service
import SheetExport.Proofs.Export.Upkeep
import SheetExport.Proofs.Job.Record
import SheetExport.Proofs.Job.Work

/-! # What the work on a job does to its record

Nothing is said here of where records are kept: `Minds` says that what is noted of a job moves as the store is told
to, and that nobody else moves it. Work on a job then moves its record on, announces once what it told the store last
and yields it, unless the work breaks down, and then the record is left in progress and nothing is announced.
-/

namespace SheetExport

/-- What is noted of how a job stands and what came of it. -/
structure JobNote where
  status : JobStatus
  locator : Option String
  errorMessage : Option String
  deriving DecidableEq, Repr

def Job.note (j : Job) : JobNote := ⟨j.status, j.locator, j.errorMessage⟩

namespace Ending

def note (e : Ending) : JobNote := ⟨e.status, e.locator, e.errorMessage⟩

variable (e : Ending)

theorem isTerminal_status : e.status.isTerminal = true := by
  cases e <;> rfl

theorem isSome_locator : e.locator.isSome = true ↔ e.status = .completed := by
  cases e <;> simp [locator, status]

theorem isSome_errorMessage : e.errorMessage.isSome = true ↔ e.status = .failed := by
  cases e <;> simp [errorMessage, status]

end Ending

namespace JobNote

/-- What is noted after a change of status is told. -/
def moveTo (n : JobNote) (status : JobStatus) (locator errorMessage : Option String) : JobNote :=
  match n.status.transitionTo status with
  | .apply => ⟨status, locator <|> n.locator, errorMessage <|> n.errorMessage⟩
  | .unchanged | .rejected => n

/-- Nothing has come of the job yet. -/
def Open (n : JobNote) : Prop := n.status.isTerminal = false ∧ n.locator = none ∧ n.errorMessage = none

/-- What is noted of a job while it is being worked on, of which `n` was noted before. -/
def Underway (n n' : JobNote) : Prop := n' = n ∨ n' = n.moveTo .processing none none

variable {n n' : JobNote}

/-- What has ended stays as it is. -/
theorem moveTo_of_terminal (ended : n.status.isTerminal = true) (status : JobStatus)
    (locator errorMessage : Option String) : n.moveTo status locator errorMessage = n := by
  have other : n.status.transitionTo status ≠ .apply := fun apply => by
    rw [JobStatus.not_terminal_of_apply apply] at ended
    cases ended
  rw [moveTo]
  split
  · contradiction
  · rfl
  · rfl

theorem Open.moveTo_ending (unended : n.Open) (e : Ending) :
    n.moveTo e.status e.locator e.errorMessage = e.note := by
  obtain ⟨status, locator, errorMessage⟩ := n
  obtain ⟨unended, rfl, rfl⟩ := unended
  cases status <;> cases unended <;> cases e <;> rfl

theorem Open.underway (unended : n.Open) (underway : n.Underway n') : n'.Open := by
  obtain ⟨status, locator, errorMessage⟩ := n
  obtain ⟨unended, rfl, rfl⟩ := unended
  cases underway with
  | inl same => exact same ▸ ⟨unended, rfl, rfl⟩
  | inr moved => cases status <;> cases unended <;> exact moved ▸ ⟨rfl, rfl, rfl⟩

end JobNote

theorem Job.note_moveTo? (j : Job) (status : JobStatus) (locator errorMessage : Option String) (now : Timestamp) :
    ((j.moveTo? status locator errorMessage now).getD j).note = j.note.moveTo status locator errorMessage := by
  rw [moveTo?, JobNote.moveTo, show j.note.status = j.status from rfl]
  cases j.status.transitionTo status <;> rfl

variable {σ ω α : Type} {noted : JobNote → ω → Prop} {w : Worker ω} {id : String} {n : JobNote}

/-- What is noted of a job moves as the store is told to, and is left alone otherwise. -/
structure Worker.Minds (w : Worker ω) (id : String) (noted : JobNote → ω → Prop) : Prop where
  setStatus : ∀ {n world}, noted n world → ∀ status locator errorMessage,
    ∃ world', (w.store.setStatus id status locator errorMessage).on world = (.ok (), world') ∧
      noted (n.moveTo status locator errorMessage) world'
  setProgress : ∀ {n world}, noted n world → ∀ rows batches, noted n ((w.store.setProgress id rows batches).on world).2
  cancelRequested : ∀ {n world}, noted n world →
    ∃ wanted world', (w.store.cancelRequested id).on world = (.ok wanted, world') ∧ noted n world'
  save : ∀ {n world}, noted n world → ∀ name contentType length content,
    noted n ((w.storage.save name contentType length).on (world, content)).2.1

/-- Whatever is done with a source leaves the records alone. -/
structure Source.Minds (source : Source σ ω α) (noted : JobNote → ω → Prop) : Prop where
  asking : ∀ n, source.Keeps fun s => noted n s.2
  closing : ∀ {n s}, noted n s.2 → noted n (source.close s).2.2

namespace Worker

/-- The record is as it should be, and so much has been announced. -/
def Stands (noted : JobNote → ω → Prop) (n : JobNote) (announced : List JobEvent) (s : Shift σ ω) : Prop :=
  noted n s.world ∧ s.announced = announced

variable {announced : List JobEvent} {schema : Schema α} {source : Source σ ω α} {filter : Option Filter}
  (minds : w.Minds id noted)
include minds

theorem hear_noted {world : ω} (held : noted n world) (p : Progress) (watch : JobWatch) :
    noted n (JobWatch.hear w.store id p (watch, world)).2.2 := by
  rw [hear_world]
  split
  · exact held
  · have told := minds.setProgress held p.rows p.batches
    split
    · obtain ⟨wanted, world', looked, held'⟩ := minds.cancelRequested told
      dsimp only
      rw [looked]
      exact held'
    · exact told

theorem begin_stands {s : Shift σ ω} (stands : Stands noted n announced s) :
    ∃ goesOn s', (w.begin id).on s = (.ok goesOn, s') ∧
      Stands noted (if goesOn then n.moveTo .processing none none else n) announced s' := by
  obtain ⟨held, same⟩ := stands
  obtain ⟨wanted, world₁, looked, held₁⟩ := minds.cancelRequested held
  rw [begin, ActionOf.on_bind_ok (onWorld_ok looked)]
  cases wanted with
  | true => exact ⟨false, _, rfl, held₁, same⟩
  | false =>
      obtain ⟨world₂, written, held₂⟩ := minds.setStatus held₁ .processing none none
      refine ⟨true, { s with world := world₂ }, ?_, held₂, same⟩
      rw [if_neg Bool.false_ne_true, ActionOf.on_bind_ok (onWorld_ok written)]
      rfl

/-- What is settled is written, announced and yielded. -/
theorem settle_stands {s : Shift σ ω} (stands : Stands noted n announced s) (ending : Ending) :
    ∃ s', (w.settle id ending).on s = (.ok ending, s') ∧
      Stands noted (n.moveTo ending.status ending.locator ending.errorMessage) (announced ++ [⟨id, ending⟩]) s' := by
  obtain ⟨held, rfl⟩ := stands
  obtain ⟨world', written, held'⟩ := minds.setStatus held ending.status ending.locator ending.errorMessage
  refine ⟨{ s with world := world', announced := s.announced ++ [⟨id, ending⟩] }, ?_, held', rfl⟩
  rw [settle, ActionOf.on_bind_ok (onWorld_ok written)]
  rfl

theorem tellFailure_stands : (w.tellFailure id : WorkStep σ ω Unit).Keeps (Stands noted n announced) :=
  fun s stands => ⟨hear_noted minds stands.1 ⟨.failed, s.watch.rows, s.watch.batches⟩ s.watch, stands.2⟩

/-- An export that came to something ends in one way or another. -/
theorem conclude_stands {s : Shift σ ω} (stands : Stands noted n announced s) (outcome : Except ExportError String) :
    ∃ ending s', (w.conclude id (outcome.mapError .error)).on s = (.ok ending, s') ∧
      Stands noted (n.moveTo ending.status ending.locator ending.errorMessage) (announced ++ [⟨id, ending⟩]) s' := by
  cases outcome with
  | ok locator => exact ⟨_, settle_stands minds stands (.completed locator)⟩
  | error e =>
      by_cases cancelled : e = .cancelled
      · subst cancelled
        exact ⟨_, settle_stands minds stands .cancelled⟩
      · have told : ((w.tellFailure id : WorkStep σ ω Unit).on s).1 = .ok () := rfl
        obtain ⟨s', settled, stands'⟩ :=
          settle_stands minds (tellFailure_stands minds s stands) (.failed e.message)
        refine ⟨_, s', ?_, stands'⟩
        rw [show (Except.error e).mapError Halt.error = (.error (.error e) : Except Halt String) from rfl,
          conclude_failed w id cancelled, ActionOf.on_bind]
        exact settled

theorem saveFile_stands (name : String) (bytes : ByteArray) :
    (w.saveFile name bytes : WorkStep σ ω String).Keeps (Stands noted n announced) :=
  fun _ stands => ⟨minds.save stands.1 name spreadsheetType bytes.size ⟨bytes, 0⟩, stands.2⟩

variable [Gzip] [Zip] (aloof : source.Minds noted)
include aloof

theorem exportToScratch_stands :
    (w.exportToScratch id schema source filter).Keeps (Stands noted n announced) := by
  intro s stands
  rw [exportToScratch, ActionOf.on_of]
  cases w.scratch with
  | error fault => exact stands
  | ok output =>
      have asking : (source.within Prod.snd fun world (t : JobWatch × ω) => (t.1, world)).Keeps
          fun s => noted n s.2.2 :=
        { stream := fun s => (aloof.asking n).stream (s.1, s.2.2)
          streamMatching := fun filter s => (aloof.asking n).streamMatching filter (s.1, s.2.2)
          next := fun s => (aloof.asking n).next (s.1, s.2.2) }
      have telling : (w.options id).Keeps fun s : σ × JobWatch × ω => noted n s.2.2 :=
        fun p _ world held => hear_noted minds held p world.1
      obtain ⟨outcome, run, exported, held⟩ := exportTo_keeps asking telling w.config schema filter (w.clock s.world)
        s.source (s.watch, s.world) output (w.spillDisk s.world) stands.1
      dsimp only
      rw [exported]
      exact ⟨aloof.closing held, stands.2⟩

theorem deliver_stands : (w.deliver id schema source filter).Keeps (Stands noted n announced) :=
  .bind (exportToScratch_stands minds aloof) fun _ => saveFile_stands minds _ _

/-- Work on a job ends it, announces how and says so, or it breaks down. -/
theorem process_stands (schema : Schema α) (filter : Option Filter) {s : Shift σ ω}
    (stands : Stands noted n announced s) :
    ∃ n' s', n.Underway n' ∧
      ((∃ ending, (w.process id schema source filter).on s = (.ok ending, s') ∧
        Stands noted (n'.moveTo ending.status ending.locator ending.errorMessage) (announced ++ [⟨id, ending⟩]) s') ∨
      ∃ b, (w.process id schema source filter).on s = (.error (.breakdown b), s') ∧ Stands noted n' announced s') := by
  obtain ⟨goesOn, s₁, begun, stands₁⟩ := begin_stands minds (s := { s with watch := .initial }) stands
  rw [process_on, begun]
  cases goesOn with
  | false =>
      have closed : Stands noted n announced ((closeSource source).on s₁).2 :=
        ⟨aloof.closing stands₁.1, stands₁.2⟩
      obtain ⟨s', settled, stands'⟩ := settle_stands minds closed .cancelled
      exact ⟨n, s', .inl rfl, .inl ⟨_, settled, stands'⟩⟩
  | true =>
      have delivered : Stands noted _ announced ((w.deliver id schema source filter).on s₁).2 :=
        deliver_stands minds aloof s₁ stands₁
      dsimp only [proceed]
      rw [ActionOf.on_bind, ActionOf.on_caught]
      cases outcome : ((w.deliver id schema source filter).on s₁).1 with
      | ok locator =>
          obtain ⟨ending, s', concluded, stands'⟩ := conclude_stands minds delivered (.ok locator)
          exact ⟨_, s', .inr rfl, .inl ⟨ending, concluded, stands'⟩⟩
      | error halt =>
          cases halt with
          | error e =>
              obtain ⟨ending, s', concluded, stands'⟩ := conclude_stands minds delivered (.error e)
              exact ⟨_, s', .inr rfl, .inl ⟨ending, concluded, stands'⟩⟩
          | breakdown b => exact ⟨_, _, .inr rfl, .inr ⟨b, rfl, delivered⟩⟩

/-- Work in the background always comes to an end, since work that breaks down is noted as a failure. -/
theorem work_stands (schema : Schema α) (filter : Option Filter) {s : Shift σ ω} (stands : Stands noted n announced s) :
    ∃ n' ending, n.Underway n' ∧
      Stands noted (n'.moveTo ending.status ending.locator ending.errorMessage) (announced ++ [⟨id, ending⟩])
        (w.work id schema source filter s).2 ∧
      (∀ e, ((w.process id schema source filter).on s).1 = .ok e → ending = e) ∧
      ∀ b, ((w.process id schema source filter).on s).1 = .error (.breakdown b) → ending = .failed b.report := by
  obtain ⟨n', t, underway, ⟨ending, ran, stands'⟩ | ⟨b, ran, stands'⟩⟩ :=
    process_stands minds aloof schema filter stands
  · refine ⟨n', ending, underway, ?_, ?_, ?_⟩
    · rw [work_on, ran]
      exact stands'
    · rw [ran]
      rintro e ⟨⟩
      rfl
    · rw [ran]
      rintro b ⟨⟩
  · obtain ⟨t', settled, stands''⟩ := settle_stands minds stands' (.failed b.report)
    refine ⟨n', .failed b.report, underway, ?_, ?_, ?_⟩
    · rw [work_on, ran]
      dsimp only
      rw [settled]
      exact stands''
    · rw [ran]
      rintro e ⟨⟩
    · rw [ran]
      rintro b ⟨⟩
      rfl

end Worker

end SheetExport
