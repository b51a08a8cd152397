import Mathlib.Order.Bounds.Basic
import SheetExport.Proofs.Job.Watch

/-! # Requests to cancel in the midst of an export

Somebody asks for a job to stop while its export is asking for an item. The watch looks for such wishes at the end
of a batch only, so the export is stopped after the first batch that ends with this item or later, if there are
items enough for it to get there. `Along` is what is true of the source, the watch, the record and the storage
after any number of items until then.
-/

namespace SheetExport

variable {σ ω F α : Type}

structure Tally where
  opened : Nat
  asked : Nat
  deriving DecidableEq

namespace Source

/-- The source with a tally. While it is asked for its `n`-th item, `meanwhile n` happens to the world. -/
def tallied (source : Source σ ω α) (meanwhile : Nat → ω → ω) : Source (σ × Tally) ω α where
  name := source.name
  stream := counted source.stream
  streamMatching filter := counted (source.streamMatching filter)
  next := fun ((s, tally), w) =>
    let (pull, s, w) := source.next (s, meanwhile (tally.asked + 1) w)
    (pull, (s, { tally with asked := tally.asked + 1 }), w)
  close := fun ((s, tally), w) =>
    let ((), s, w) := source.close (s, w)
    ((), (s, tally), w)
where
  counted (opening : Action (σ × ω) Unit) : Action ((σ × Tally) × ω) Unit := .of fun ((s, tally), w) =>
    let (outcome, s, w) := opening.on (s, w)
    (outcome, (s, { tally with opened := tally.opened + 1 }), w)

theorem tallied_opening (source : Source σ ω α) (meanwhile : Nat → ω → ω) (filter : Option Filter) (s : σ)
    (tally : Tally) (w : ω) :
    ((source.tallied meanwhile).opening filter).on ((s, tally), w) =
      (((source.opening filter).on (s, w)).1,
        (((source.opening filter).on (s, w)).2.1, { tally with opened := tally.opened + 1 }),
        ((source.opening filter).on (s, w)).2.2) := by
  cases filter <;> rfl

theorem within_opening {τ : Type} (source : Source σ ω α) (part : τ → ω) (put : ω → τ → τ) (filter : Option Filter)
    (s : σ) (t : τ) :
    ((source.within part put).opening filter).on (s, t) =
      (((source.opening filter).on (s, part t)).1, ((source.opening filter).on (s, part t)).2.1,
        put ((source.opening filter).on (s, part t)).2.2 t) := by
  cases filter <;> rfl

end Source

/-- Whatever the record of a job is, it stays as it is. -/
def JobHome.Calm (home : JobHome) (id : String) (w u : home.State) : Prop := ∀ v, home.Holds id v w → home.Holds id v u

/-- A source that hands out items and then ends. Whatever happens to the jobs while it does so, the record of one
    job is left alone. -/
structure Source.Hands (home : JobHome) (id : String) (source : Source σ home.State α) (filter : Option Filter)
    (items : List α) (s : σ) (held : Nat → σ → Prop) : Prop where
  opens : ∀ w, ∃ t u, (source.opening filter).on (s, w) = (.ok (), t, u) ∧ held 0 t ∧ home.Calm id w u
  entity : ∀ n t w a, held n t → items[n]? = some a →
    ∃ t' u, source.next (t, w) = (.entity a, t', u) ∧ held (n + 1) t' ∧ home.Calm id w u
  finished : ∀ n t w, held n t → items[n]? = none → ∃ t' u, source.next (t, w) = (.finished, t', u) ∧ home.Calm id w u
  closes : ∀ t w, home.Calm id w (source.close (t, w)).2.2

/-- Somebody asks for a job to stop while the `j`-th item is asked for. -/
def JobHome.requestAt (home : JobHome) (id : String) (j n : Nat) (w : home.State) : home.State :=
  if n = j then ((home.store.requestCancel id).on w).2 else w

def Source.beside {J : Type} (source : Source σ J α) : Source σ (J × F) α :=
  source.within Prod.fst fun jobs w => (jobs, w.2)

/-- The source as an export for a worker reads it. -/
def Source.exported {J : Type} (source : Source σ J α) : Source σ (JobWatch × (J × F)) α :=
  source.beside.within Prod.snd fun world t => (t.1, world)

/-- The source as an export reads it when somebody asks for the job to stop in the midst of it. -/
def Source.disturbed {home : JobHome} (source : Source σ home.State α) (id : String) (j : Nat) :
    Source (σ × Tally) (JobWatch × (home.State × F)) α :=
  (source.tallied (home.requestAt id j)).exported

section Course

variable {home : JobHome} {id : String} {source : Source σ home.State α} {filter : Option Filter} {items : List α}
  {s : σ} {held : Nat → σ → Prop} {batch j b n : Nat} {files : F} {t : (σ × Tally) × (JobWatch × (home.State × F))}

/-- The record of a job in the midst of its export, with the rows of all batches that have ended. -/
def viewAfter (batch n : Nat) (cancelRequested : Bool) : JobView :=
  ⟨.processing, n / batch * batch, n / batch, cancelRequested⟩

/-- What is true after `n` items, where the `j`-th brings the wish to stop and `b` items end the first batch after
    it. -/
structure Along (home : JobHome) (id : String) (held : Nat → σ → Prop) (batch j b : Nat) (files : F) (n : Nat)
    (t : (σ × Tally) × (JobWatch × (home.State × F))) : Prop where
  held : held n t.1.1
  tally : t.1.2 = ⟨1, n⟩
  stop : t.2.1.stopRequested = decide (b ≤ n)
  job : home.Holds id (viewAfter batch n (decide (j ≤ n))) t.2.2.1
  files : t.2.2.2 = files

theorem requestAt_holds {v : JobView} {w : home.State} (held : home.Holds id v w)
    (asked : v.cancelRequested = decide (j ≤ n)) :
    home.Holds id { v with cancelRequested := decide (j ≤ n + 1) } (home.requestAt id j (n + 1) w) := by
  rw [JobHome.requestAt]
  split
  · rename_i now
    obtain ⟨u, requested, held'⟩ := JobHome.requestCancel_on held
    rw [requested, show decide (j ≤ n + 1) = true by simp [now]]
    exact held'
  · rename_i later
    rw [show decide (j ≤ n + 1) = v.cancelRequested by rw [asked]; congr 1; rw [eq_iff_iff]; omega]
    exact held

theorem Source.Hands.opening (hands : source.Hands home id filter items s held) (j : Nat) (watch : JobWatch)
    (jobs : home.State) (files : F) :
    ∃ t u, ((source.disturbed id j).opening filter).on ((s, ⟨0, 0⟩), (watch, (jobs, files))) =
        (.ok (), (t, ⟨1, 0⟩), (watch, (u, files))) ∧
      held 0 t ∧ home.Calm id jobs u := by
  obtain ⟨t, u, opened, first, calm⟩ := hands.opens jobs
  refine ⟨t, u, ?_, first, calm⟩
  rw [Source.disturbed, Source.exported, Source.within_opening, Source.beside, Source.within_opening,
    Source.tallied_opening, opened]

theorem Along.begun {t : σ} {w : home.State} (watch : JobWatch)
    (first : held 0 t) (quiet : watch.stopRequested = false) (job : home.Holds id ⟨.processing, 0, 0, false⟩ w)
    (batch : Nat) {j b : Nat} (positive : 0 < j) (later : j ≤ b) (files : F) :
    Along home id held batch j b files 0 ((t, ⟨1, 0⟩), (watch, (w, files))) := by
  refine ⟨first, rfl, ?_, ?_, rfl⟩
  · rw [quiet]
    exact (decide_eq_false (by omega)).symm
  · rw [show decide (j ≤ 0) = false from decide_eq_false (by omega), viewAfter, Nat.zero_div, Nat.zero_mul]
    exact job

/-- An item comes, and perhaps the wish to stop. -/
theorem Along.pulled (hands : source.Hands home id filter items s held) (along : Along home id held batch j b files n t)
    {a : α} (item : items[n]? = some a) :
    ∃ t' jobs, (source.disturbed id j).next t = (.entity a, (t', ⟨1, n + 1⟩), (t.2.1, (jobs, files))) ∧
      held (n + 1) t' ∧ home.Holds id (viewAfter batch n (decide (j ≤ n + 1))) jobs := by
  obtain ⟨⟨own, tally⟩, watch, jobs, files⟩ := t
  obtain ⟨now, rfl, stop, job, rfl⟩ := along
  obtain ⟨t', jobs', next, now', calm⟩ := hands.entity n own (home.requestAt id j (n + 1) jobs) a now item
  refine ⟨t', jobs', ?_, now', calm _ (requestAt_holds job rfl)⟩
  simp only [Source.disturbed, Source.exported, Source.beside, Source.within, Source.tallied, next]

theorem Along.ended (hands : source.Hands home id filter items s held) (along : Along home id held batch j b files n t)
    (noneLeft : items[n]? = none) :
    ∃ t' jobs, (source.disturbed id j).next t = (.finished, (t', ⟨1, n + 1⟩), (t.2.1, (jobs, files))) ∧
      home.Holds id (viewAfter batch n (decide (j ≤ n + 1))) jobs := by
  obtain ⟨⟨own, tally⟩, watch, jobs, files⟩ := t
  obtain ⟨now, rfl, stop, job, rfl⟩ := along
  obtain ⟨t', jobs', next, calm⟩ := hands.finished n own (home.requestAt id j (n + 1) jobs) now noneLeft
  refine ⟨t', jobs', ?_, calm _ (requestAt_holds job rfl)⟩
  simp only [Source.disturbed, Source.exported, Source.beside, Source.within, Source.tallied, next]

/-- The wish to stop has been seen once the first batch after it has ended. -/
theorem seen_succ (least : IsLeast {c | batch ∣ c ∧ j ≤ c} b) (full : (n + 1) % batch = 0) :
    (decide (b ≤ n) || (JobWatch.asks .flushedBatch && decide (j ≤ n + 1))) = decide (b ≤ n + 1) := by
  obtain ⟨⟨-, late⟩, first⟩ := least
  have reached : j ≤ n + 1 → b ≤ n + 1 := fun le => first ⟨Nat.dvd_of_mod_eq_zero full, le⟩
  rw [JobWatch.asks, Bool.true_and, ← Bool.decide_or]
  congr 1
  rw [eq_iff_iff]
  omega

theorem seen_same (least : IsLeast {c | batch ∣ c ∧ j ≤ c} b) (partial' : (n + 1) % batch ≠ 0) :
    decide (b ≤ n) = decide (b ≤ n + 1) := by
  have other : b ≠ n + 1 := fun eq => partial' (Nat.mod_eq_zero_of_dvd (eq ▸ least.1.1))
  congr 1
  rw [eq_iff_iff]
  omega

/-- One item more, and the end of a batch if it is the last in it. -/
theorem Along.succ (hands : source.Hands home id filter items s held) (least : IsLeast {c | batch ∣ c ∧ j ≤ c} b)
    {first : (σ × Tally) × (JobWatch × (home.State × F))}
    (along : Along home id held batch j b files n
      (Run.course (source.disturbed id j) (home.options F id) batch first n))
    {a : α} (item : items[n]? = some a) :
    Along home id held batch j b files (n + 1)
      (Run.course (source.disturbed id j) (home.options F id) batch first (n + 1)) := by
  obtain ⟨t', jobs, next, now, job⟩ := along.pulled hands item
  rw [Run.course_succ next]
  -- The watch looks for the wish only where a batch ends.
  split
  · rename_i full
    obtain ⟨jobs', heard, job⟩ := JobHome.listen_on (p := ⟨.flushedBatch, n + 1, (n + 1) / batch⟩) (by simp)
      (Run.course (source.disturbed id j) (home.options F id) batch first n).2.1 files job
    rw [heard]
    refine ⟨now, rfl, ?_, ?_, rfl⟩
    · rw [along.stop]
      exact seen_succ least full
    · rw [viewAfter, Nat.div_mul_cancel (Nat.dvd_of_mod_eq_zero full)]
      exact job
  · rename_i partial'
    refine ⟨now, rfl, along.stop.trans (seen_same least partial'), ?_, rfl⟩
    rw [viewAfter, Nat.succ_div_of_mod_ne_zero partial']
    exact job

theorem Along.course (hands : source.Hands home id filter items s held) (least : IsLeast {c | batch ∣ c ∧ j ≤ c} b)
    {first : (σ × Tally) × (JobWatch × (home.State × F))} (begun : Along home id held batch j b files 0 first)
    (le : n ≤ items.length) :
    Along home id held batch j b files n
      (Run.course (source.disturbed id j) (home.options F id) batch first n) := by
  induction n with
  | zero => exact begun
  | succ n ih => exact (ih (Nat.le_of_succ_le le)).succ hands least (List.getElem?_eq_getElem le)

theorem Along.stopsAt_iff {first : (σ × Tally) × (JobWatch × (home.State × F))}
    (along : Along home id held batch j b files n
      (Run.course (source.disturbed id j) (home.options F id) batch first n)) :
    Run.StopsAt (source.disturbed id j) (home.options F id) batch first n ↔ n % batch = 0 ∧ b ≤ n := by
  rw [Run.StopsAt]
  refine and_congr_right fun _ => ?_
  rw [JobHome.stopRequested_options, along.stop, decide_eq_true_iff]

end Course

end SheetExport
