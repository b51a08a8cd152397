import SheetExport.Job.Service
import SheetExport.Proofs.Action

/-! # The steps of the work on a job

Work on a job begins, and goes on with what came of its beginning; what came of the export is concluded. Each of
these steps is put so that it can be followed by itself.
-/

namespace SheetExport

/-- The counts go into the watch and into the record, and after some phases it is looked up whether to stop. -/
theorem JobWatch.hear_on {ω : Type} {store : JobStore ω} {id : String} {p : Progress} (later : p.phase ≠ .starting)
    (watch : JobWatch) {world told : ω} {noted : Except ExportError Unit}
    (ran : (store.setProgress id p.rows p.batches).on world = (noted, told)) :
    (hear store id p (watch, world)).2 =
      if asks p.phase then
        let looked := (store.cancelRequested id).on told
        (⟨p.rows, p.batches, watch.stopRequested || looked.1.toOption.getD false⟩, looked.2)
      else (⟨p.rows, p.batches, watch.stopRequested⟩, told) := by
  have counting (f : PUnit → StateM (JobWatch × ω) Unit) (g : JobWatch × ω → JobWatch × ω) (s : JobWatch × ω) :
      (modify g >>= f) s = f ⟨⟩ (g s) := rfl
  rw [hear, if_pos later, counting,
    ActionOf.attempt_bind (ActionOf.on_second_of ran (⟨p.rows, p.batches, watch.stopRequested⟩ : JobWatch))]
  cases asks p.phase with
  | false => rfl
  | true =>
      rcases looked : (store.cancelRequested id).on told with ⟨wanted, after⟩
      rw [if_pos rfl, ActionOf.attempt_bind
        (ActionOf.on_second_of looked (⟨p.rows, p.batches, watch.stopRequested⟩ : JobWatch))]
      rcases wanted with _ | _ | _
      · exact congrArg (fun stop => (JobWatch.mk p.rows p.batches stop, after)) (Bool.or_false _).symm
      · exact congrArg (fun stop => (JobWatch.mk p.rows p.batches stop, after)) (Bool.or_false _).symm
      · exact congrArg (fun stop => (JobWatch.mk p.rows p.batches stop, after)) (Bool.or_true _).symm

namespace Worker

variable {σ ω α β : Type}

theorem onWorld_on (a : Action ω β) (s : Shift σ ω) :
    (onWorld a : WorkStep σ ω β).on s = ((a.on s.world).1.mapError .error, { s with world := (a.on s.world).2 }) :=
  rfl

/-- Of the world only the job store hears what an export tells, and it is asked after some phases. -/
theorem hear_world (store : JobStore ω) (id : String) (p : Progress) (watch : JobWatch) (world : ω) :
    (JobWatch.hear store id p (watch, world)).2.2 =
      if p.phase = .starting then world
      else
        let told := ((store.setProgress id p.rows p.batches).on world).2
        if JobWatch.asks p.phase then ((store.cancelRequested id).on told).2 else told := by
  by_cases starting : p.phase = .starting
  · rw [JobWatch.hear, if_neg (not_not_intro starting), if_pos starting]
    rfl
  · rw [if_neg starting, JobWatch.hear_on starting watch rfl]
    cases JobWatch.asks p.phase <;> rfl

theorem onWorld_ok {a : Action ω β} {s : Shift σ ω} {world : ω} {b : β} (ran : a.on s.world = (.ok b, world)) :
    (onWorld a : WorkStep σ ω β).on s = (.ok b, { s with world }) := by
  rw [onWorld_on, ran]
  rfl

theorem onWorld_error {a : Action ω β} {s : Shift σ ω} {world : ω} {e : ExportError}
    (ran : a.on s.world = (.error e, world)) :
    (onWorld a : WorkStep σ ω β).on s = (.error (.error e), { s with world }) := by
  rw [onWorld_on, ran]
  rfl

/-- What is done after the beginning. -/
def proceed [Gzip] [Zip] (w : Worker ω) (id : String) (schema : Schema α) (source : Source σ ω α)
    (filter : Option Filter) : Except Halt Bool → WorkStep σ ω Ending
  | .error halt => do
      closeSource source
      throw halt
  | .ok false => do
      closeSource source
      w.settle id .cancelled
  | .ok true => do w.conclude id (← (w.deliver id schema source filter).caught)

theorem process_on [Gzip] [Zip] (w : Worker ω) (id : String) (schema : Schema α) (source : Source σ ω α)
    (filter : Option Filter) (s : Shift σ ω) :
    (w.process id schema source filter).on s =
      (w.proceed id schema source filter ((w.begin id).on { s with watch := .initial }).1).on
        ((w.begin id).on { s with watch := .initial }).2 := by
  rw [process, ActionOf.on_modify_bind, ActionOf.on_bind, ActionOf.on_caught]
  dsimp only
  rcases (w.begin id).on { s with watch := .initial } with ⟨_ | _ | _, t⟩ <;> rfl

/-- The last that is told of the progress of an export that failed. -/
def tellFailure (w : Worker ω) (id : String) : WorkStep σ ω Unit :=
  modify fun s =>
    let (watch, world) := (JobWatch.hear w.store id ⟨.failed, s.watch.rows, s.watch.batches⟩ (s.watch, s.world)).2
    { s with watch, world }

theorem conclude_failed (w : Worker ω) (id : String) {e : ExportError} (other : e ≠ .cancelled) :
    (w.conclude id (.error (.error e)) : WorkStep σ ω Ending) =
      (do w.tellFailure id
          w.settle id (.failed e.message)) := by
  cases e with
  | cancelled => exact absurd rfl other
  | _ => rfl

/-- Nobody wants the job to stop, and the store takes note that it is in progress. -/
def GoesOn (w : Worker ω) (id : String) (world : ω) : Prop :=
  let looked := (w.store.cancelRequested id).on world
  looked.1 = .ok false ∧ ((w.store.setStatus id .processing none none).on looked.2).1 = .ok ()

theorem begin_iff (w : Worker ω) (id : String) (s : Shift σ ω) :
    ((w.begin id : WorkStep σ ω Bool).on s).1 = .ok true ↔ w.GoesOn id s.world := by
  rw [begin, GoesOn]
  rcases looked : (w.store.cancelRequested id).on s.world with ⟨_ | wanted, world⟩
  · rw [ActionOf.on_bind_error (onWorld_error looked)]
    exact ⟨nofun, fun goes => nomatch goes.1⟩
  · rw [ActionOf.on_bind_ok (onWorld_ok looked)]
    cases wanted with
    | true => exact ⟨nofun, fun goes => nomatch goes.1⟩
    | false =>
        rcases written : (w.store.setStatus id .processing none none).on world with ⟨_ | _, told⟩
        · rw [if_neg Bool.false_ne_true, ActionOf.on_bind_error (onWorld_error written)]
          exact ⟨nofun, fun goes => nomatch goes.2⟩
        · rw [if_neg Bool.false_ne_true, ActionOf.on_bind_ok (onWorld_ok written)]
          exact ⟨fun _ => ⟨rfl, rfl⟩, fun _ => rfl⟩

theorem noteFailure_on (w : Worker ω) (id message : String) (s : Shift σ ω) :
    (w.noteFailure id message).on s = (((w.settle id (.failed message)).on s).1.map fun _ => (),
      ((w.settle id (.failed message)).on s).2) := by
  rw [noteFailure, ActionOf.on_bind]
  rcases (w.settle id (.failed message)).on s with ⟨_ | _, t⟩ <;> rfl

/-- What work in the background leaves; of its failures only a breakdown has a consequence. -/
theorem work_on [Gzip] [Zip] (w : Worker ω) (id : String) (schema : Schema α) (source : Source σ ω α)
    (filter : Option Filter) (s : Shift σ ω) :
    (w.work id schema source filter s).2 = match (w.process id schema source filter).on s with
      | (.error (.breakdown b), t) => ((w.settle id (.failed b.report)).on t).2
      | (_, t) => t := by
  have handed : (w.work id schema source filter s).2 = match (w.process id schema source filter).on s with
      | (.error (.breakdown b), t) => ((w.noteFailure id b.report).on t).2
      | (_, t) => t := by
    rcases ran : (w.process id schema source filter).on s with ⟨outcome, t⟩
    rw [work, ActionOf.attempt_bind ran]
    rcases outcome with (e | b) | ending <;> rfl
  rw [handed]
  split
  · rw [noteFailure_on]
  · rfl

/-- A request with a filter that breaks no rule makes a job. -/
theorem accept_of_valid [RegexEngine] (w : Worker ω) (id : String) {filter : Option Filter}
    (valid : ∀ f, filter = some f → f.check = .ok ()) : w.accept id filter = w.store.create id := by
  cases filter with
  | none => rfl
  | some f =>
      rw [accept]
      simp only [valid f rfl]

end Worker

end SheetExport
