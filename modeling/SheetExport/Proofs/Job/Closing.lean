import SheetExport.Job.Memory
import SheetExport.Proofs.Export.Upkeep
import SheetExport.Proofs.Job.Work

/-! # Who closes the source of a job

Work on a job that does not get as far as its export closes the source itself, and an export closes the source
whatever happens. In between the scratch file is made: when there can be none, nobody closes the source.
-/

namespace SheetExport

variable {σ ω α β : Type}

/-- The source with a count of how often it was closed. -/
def Source.countingCloses (source : Source σ ω α) : Source (σ × Nat) ω α where
  name := source.name
  stream := source.stream.within (fun ((s, _), w) => (s, w)) fun (s, w) ((_, closes), _) => ((s, closes), w)
  streamMatching filter :=
    (source.streamMatching filter).within (fun ((s, _), w) => (s, w)) fun (s, w) ((_, closes), _) => ((s, closes), w)
  next := fun ((s, closes), w) =>
    let (pull, s, w) := source.next (s, w)
    (pull, (s, closes), w)
  close := fun ((s, closes), w) =>
    let ((), s, w) := source.close (s, w)
    ((), (s, closes + 1), w)

theorem Source.countingCloses_keeps {τ : Type} (source : Source σ ω α) (part : τ → ω) (put : ω → τ → τ)
    (closes : Nat) :
    (source.countingCloses.within part put).Keeps fun t : (σ × Nat) × τ => t.1.2 = closes where
  stream _ held := held
  streamMatching _ _ held := held
  next _ held := held

namespace Worker

/-- The source was closed so many times. -/
def Closed (closes : Nat) (s : Shift (σ × Nat) ω) : Prop := s.source.2 = closes

variable {closes : Nat} (w : Worker ω) (id : String) (schema : Schema α) (source : Source σ ω α)
  (filter : Option Filter)

theorem onWorld_closed (a : Action ω β) : (onWorld a : WorkStep (σ × Nat) ω β).Keeps (Closed closes) :=
  fun _ held => held

theorem begin_closed : (w.begin id : WorkStep (σ × Nat) ω Bool).Keeps (Closed closes) := by
  refine .bind (onWorld_closed _) fun cancelled => ?_
  split
  · exact .pure _
  · exact .bind (onWorld_closed _) fun _ => .pure _

theorem settle_closed (ending : Ending) : (w.settle id ending : WorkStep (σ × Nat) ω Ending).Keeps (Closed closes) :=
  .bind (onWorld_closed _) fun _ => .bind (.modify fun _ held => held) fun _ => .pure _

theorem conclude_closed (outcome : Except Halt String) :
    (w.conclude id outcome : WorkStep (σ × Nat) ω Ending).Keeps (Closed closes) := by
  cases outcome with
  | ok locator => exact settle_closed w id _
  | error halt =>
      cases halt with
      | breakdown b => exact .throw _
      | error e =>
          by_cases cancelled : e = .cancelled
          · subst cancelled
            exact settle_closed w id _
          · rw [conclude_failed w id cancelled]
            exact .bind (.modify fun _ held => held) fun _ => settle_closed w id _

/-- How often an export for a job closes its source. Without a scratch file there is no export. -/
def exportCloses : Nat :=
  match w.scratch with
  | .ok _ => 1
  | .error _ => 0

section Work

variable [Gzip] [Zip]

theorem exportToScratch_closes {s : Shift (σ × Nat) ω} (held : Closed closes s) :
    Closed (closes + w.exportCloses) ((w.exportToScratch id schema source.countingCloses filter).on s).2 := by
  rw [exportToScratch, ActionOf.on_of, exportCloses]
  cases scratch : w.scratch with
  | error fault => exact held
  | ok output =>
      have asking := source.countingCloses_keeps Prod.snd (fun world (t : JobWatch × ω) => (t.1, world)) closes
      have telling : (w.options id).Keeps fun s : (σ × Nat) × JobWatch × ω => s.1.2 = closes := fun _ _ _ held => held
      obtain ⟨outcome, r, exported, left⟩ := exportTo_keeps asking telling w.config schema filter (w.clock s.world)
        s.source (s.watch, s.world) output (w.spillDisk s.world) held
      dsimp only
      rw [exported]
      exact congrArg (· + 1) left

theorem deliver_closes {s : Shift (σ × Nat) ω} (held : Closed closes s) :
    Closed (closes + w.exportCloses) ((w.deliver id schema source.countingCloses filter).on s).2 :=
  ActionOf.Keeps.after (P := Closed (closes + w.exportCloses))
    (exportToScratch_closes w id schema source filter held) fun _ => onWorld_closed _

/-- What is done after the beginning closes the source once, unless it is an export that is never made. -/
theorem proceed_closes {s : Shift (σ × Nat) ω} (held : Closed closes s) (begun : Except Halt Bool) :
    Closed (closes + match begun with
      | .ok true => w.exportCloses
      | _ => 1) ((w.proceed id schema source.countingCloses filter begun).on s).2 := by
  have closed : Closed (closes + 1)
      ((closeSource source.countingCloses : WorkStep (σ × Nat) ω Unit).on s).2 := congrArg (· + 1) held
  match begun with
  | .error halt => exact ActionOf.Keeps.after (P := Closed (closes + 1)) closed fun _ => .throw halt
  | .ok false => exact ActionOf.Keeps.after (P := Closed (closes + 1)) closed fun _ => settle_closed w id _
  | .ok true =>
      exact ActionOf.Keeps.after (P := Closed (closes + w.exportCloses))
        (deliver_closes w id schema source filter held) fun outcome => conclude_closed w id outcome

/-- Whatever the job, its schema, its source, the store and the storage are and however the work on it ends, the source
    is closed at most once; and it is closed if and only if there is a scratch file for the export, or no export is
    begun. -/
theorem process_closes_source_iff (own : σ) (world : ω) (watch : JobWatch) (announced : List JobEvent) :
    let closes := ((w.process id schema source.countingCloses filter).on ⟨(own, 0), world, watch, announced⟩).2.source.2
    closes ≤ 1 ∧ (closes = 1 ↔ (w.GoesOn id world → ∃ output, w.scratch = .ok output)) := by
  intro closes
  let s : Shift (σ × Nat) ω := ⟨(own, 0), world, .initial, announced⟩
  have begun := begin_iff w id s
  have count : closes = 0 + match ((w.begin id).on s).1 with
      | .ok true => w.exportCloses
      | _ => 1 := by
    rw [show closes = _ from congrArg (fun r => r.2.source.2)
      (process_on w id schema source.countingCloses filter ⟨(own, 0), world, watch, announced⟩)]
    exact proceed_closes w id schema source filter (begin_closed w id s rfl) _
  rw [count, Nat.zero_add]
  by_cases goesOn : w.GoesOn id world
  · rw [begun.mpr goesOn, exportCloses]
    cases w.scratch with
    | error fault => simp [goesOn]
    | ok output => simp
  · have other : ((w.begin id).on s).1 ≠ .ok true := fun on => goesOn (begun.mp on)
    have once : (match ((w.begin id).on s).1 with
        | .ok true => w.exportCloses
        | _ => 1) = 1 := by
      split
      · rename_i on
        exact absurd on other
      · rfl
    rw [once]
    simp [goesOn]

end Work

/-- There is no room for a scratch file. -/
def roomless : Worker (MemoryJobs × Moment) where
  store := MemoryJobs.store .default
  storage := ⟨fun _ _ _ => pure "memory://1.xlsx", fun _ => pure ()⟩
  config := .default
  scratch := .error .notFound
  clock s := s.2.time

/-- A job that fails for want of a scratch file leaves its source open. -/
theorem source_left_open :
    let jobs := ((MemoryJobs.store .default).create "1").on (.empty, ⟨0, midnight⟩)
    let closing : Source Nat (MemoryJobs × Moment) String := ⟨"s", pure (), fun _ => pure (), pure .finished, pure ()⟩
    let work := (roomless.process "1" names closing.countingCloses none).on ⟨(0, 0), jobs.2, .initial, []⟩
    work.1 = .ok (.failed "IO error: No such file or directory (os error 2)") ∧ work.2.source.2 = 0 :=
  ⟨rfl, rfl⟩

end Worker

end SheetExport
