import SheetExport.Proofs.Job.StatusRace
import SheetExport.Proofs.Job.Written

/-! # Updates of one job that come between each other's calls

Whoever changes a job looks it up, writes some of its fields and puts off the time at which it goes, one call after
another, and others may come in between. A change of status can be lost in this way, but a request to cancel cannot, nor
can the two counts of the progress come from two callers: nobody else writes these fields, and both counts are written by
one call. `Follows` says how far each caller has come, and every turn of a race writes the fields of one update or none.
-/

namespace SheetExport

/-- What somebody does to a job that is there. -/
inductive JobUpdate where
  | status (wish : StatusWish)
  | progress (rows batches : Nat)
  | cancel

/-- Somebody who has come so far has written. -/
def Stage.Written (stage : Stage) : Prop := stage = .touching ∨ stage = .finished

instance (stage : Stage) : Decidable stage.Written := inferInstanceAs (Decidable (_ ∨ _))

namespace JobUpdate

def fields : JobUpdate → Fields
  | status w => Job.statusFields w.status w.locator w.errorMessage w.time
  | progress rows batches => Job.progressFields rows batches
  | cancel => [(JobField.cancelRequested.name, Job.boolText true)]

/-- What is left to do of an update. -/
def dialogue (h : HashedJobs) (id : String) : JobUpdate → Stage → Dialogue Unit
  | status w, stage => stage.dialogue h id w
  | progress rows batches, .reading => h.setProgress id rows batches
  | progress rows batches, .writing => .putAll (h.key id) (Job.progressFields rows batches) (h.touch id)
  | cancel, .reading => h.requestCancel id
  | cancel, .writing => .put (h.key id) JobField.cancelRequested.name (Job.boolText true) (h.touch id)
  | _, .touching => h.touch id
  | _, .finished => .done ()

/-- How far an update comes by its next call. It is given up where it is not allowed. -/
def next (allowed : Bool) : Stage → Stage
  | .reading => if allowed then .writing else .finished
  | .writing => .touching
  | .touching | .finished => .finished

theorem overwritten_cancelRequested (values : String → Option String) (u : JobUpdate) :
    overwritten values u.fields JobField.cancelRequested.name = match u with
      | cancel => some (Job.boolText true)
      | _ => values JobField.cancelRequested.name := by
  cases u with
  | status w => exact Job.WrittenIn.overwritten_statusFields values _ _ _ _ .cancelRequested
  | progress | cancel => rfl

theorem overwritten_rows (values : String → Option String) (u : JobUpdate) :
    overwritten values u.fields JobField.rows.name = match u with
      | progress rows _ => some (toString rows)
      | _ => values JobField.rows.name := by
  cases u with
  | status w => exact Job.WrittenIn.overwritten_statusFields values _ _ _ _ .rows
  | progress | cancel => rfl

theorem overwritten_batches (values : String → Option String) (u : JobUpdate) :
    overwritten values u.fields JobField.batches.name = match u with
      | progress _ batches => some (toString batches)
      | _ => values JobField.batches.name := by
  cases u with
  | status w => exact Job.WrittenIn.overwritten_statusFields values _ _ _ _ .batches
  | progress | cancel => rfl

/-- Whoever is not done has still a call to make. -/
theorem finished_of_done {h : HashedJobs} {id : String} {u : JobUpdate} {stage : Stage}
    (done : u.dialogue h id stage = .done ()) : stage = .finished := by
  cases u <;> cases stage <;> first | rfl | cases done

/-! ## Single calls -/

/-- The job is asked to stop. -/
def Asked (h : HashedJobs) (id : String) (t : HashTable) : Prop :=
  t.value (h.key id) JobField.cancelRequested.name = some (Job.boolText true)

/-- The counts that are kept of a job. -/
structure Counted (h : HashedJobs) (id : String) (t : HashTable) (counts : Nat × Nat) : Prop where
  rows : t.value (h.key id) JobField.rows.name = some (toString counts.1)
  batches : t.value (h.key id) JobField.batches.name = some (toString counts.2)

theorem Counted.find?_isSome {h : HashedJobs} {id : String} {t : HashTable} {counts : Nat × Nat}
    (c : Counted h id t counts) : (Keyed.find? t (h.key id)).isSome = true := by
  have there := c.rows
  rw [HashTable.value] at there
  obtain ⟨e, found, -⟩ := Option.bind_eq_some_iff.mp there
  rw [found]
  rfl

section Calls

variable {h : HashedJobs} {id : String} {t : HashTable} {now : Moment}

/-- What the next call of an update makes of a table. -/
def act (h : HashedJobs) (id : String) (u : JobUpdate) (now : Moment) (t : HashTable) : Stage → HashTable
  | .reading => t.prune now
  | .writing => (t.prune now).write (h.key id) u.fields
  | .touching => ((t.prune now).postpone now (h.key id) h.retention).2
  | .finished => t

/-- The status that is there can be changed to the one that is wanted. -/
def allows (t : HashTable) (key : String) (w : StatusWish) : Bool :=
  match t.status? key with
  | some current => current.transitionTo w.status == .apply
  | none => false

/-- A change of status is given up where the status does not allow it; the other updates of a job that is there are
    not, up to the last call. -/
theorem step_dialogue (known : (Keyed.find? (t.prune now) (h.key id)).isSome = true) (u : JobUpdate) {stage : Stage}
    (early : stage ≠ .touching) :
    ∃ allowed, ((∀ w, u ≠ .status w) → allowed = true) ∧
      ((u.dialogue h id stage).step HashTable.store).on (t, now) =
        (.ok (u.dialogue h id (next allowed stage)), u.act h id now t stage, now) := by
  cases stage with
  | reading =>
      cases u with
      | status w =>
          refine ⟨allows (t.prune now) (h.key id) w, fun other => absurd rfl (other w), ?_⟩
          simp only [dialogue, Stage.dialogue, HashedJobs.setStatus, Dialogue.step]
          rw [ActionOf.on_bind_ok (HashTable.on_find? ..), ActionOf.on_pure, allows, HashTable.status?]
          cases (HashTable.value (t.prune now) (h.key id) JobField.status.name).bind JobStatus.ofName? with
          | none => rfl
          | some current => cases moves : current.transitionTo w.status <;> simp [moves, next, act]
      | progress rows batches =>
          refine ⟨true, fun _ => rfl, ?_⟩
          simp only [dialogue, HashedJobs.setProgress, Dialogue.step]
          rw [ActionOf.on_bind_ok (HashTable.on_contains ..), ActionOf.on_pure, known]
          rfl
      | cancel =>
          refine ⟨true, fun _ => rfl, ?_⟩
          simp only [dialogue, HashedJobs.requestCancel, Dialogue.step]
          rw [ActionOf.on_bind_ok (HashTable.on_contains ..), ActionOf.on_pure, known]
          rfl
  | writing | finished => exact ⟨true, fun _ => rfl, by cases u <;> rfl⟩
  | touching => exact absurd rfl early

theorem dialogue_touching (h : HashedJobs) (id : String) (u : JobUpdate) :
    u.dialogue h id .touching = .expire (h.key id) h.retention (.done ()) := by
  cases u <;> rfl

theorem dialogue_finished (h : HashedJobs) (id : String) (u : JobUpdate) : u.dialogue h id .finished = .done () := by
  cases u <;> rfl

variable (live : t.LiveAt (h.key id) now)
include live

theorem value_act (u : JobUpdate) (stage : Stage) (field : String) :
    (u.act h id now t stage).value (h.key id) field =
      if stage = .writing then overwritten (t.value (h.key id)) u.fields field else t.value (h.key id) field := by
  have kept : (t.prune now).value (h.key id) field = t.value (h.key id) field := HashTable.value_prune live
  cases stage with
  | reading => exact kept
  | writing => rw [act, HashTable.value_write, kept, if_pos rfl, overwritten]
  | touching => exact (HashTable.value_postpone ..).trans kept
  | finished => rfl

/-- Nothing takes a request to cancel away. -/
theorem asked_act (asked : Asked h id t) (u : JobUpdate) (stage : Stage) : Asked h id (u.act h id now t stage) := by
  rw [Asked, value_act live]
  split
  · rw [overwritten_cancelRequested]
    cases u with
    | status | progress => exact asked
    | cancel => rfl
  · exact asked

/-- A request to cancel is there as soon as it was written. -/
theorem asked_act_cancel {stage : Stage} (before : stage.Written → Asked h id t) (wrote : (next true stage).Written) :
    Asked h id (cancel.act h id now t stage) := by
  cases stage with
  | reading => exact absurd wrote (by decide)
  | writing => rw [Asked, value_act live, if_pos rfl, overwritten_cancelRequested]
  | touching | finished => exact asked_act live (before (by decide)) _ _

/-- An update writes both counts or none. -/
theorem counted_act {counts : Nat × Nat} (counted : Counted h id t counts) (u : JobUpdate) (stage : Stage) :
    (∃ rows batches, stage = .writing ∧ u = .progress rows batches ∧
        Counted h id (u.act h id now t stage) (rows, batches)) ∨
      (¬(stage = .writing ∧ ∃ rows batches, u = .progress rows batches) ∧
        Counted h id (u.act h id now t stage) counts) := by
  have value (field : String) := value_act live u stage field
  by_cases writing : stage = .writing
  · simp only [writing, if_true] at value
    cases u with
    | progress rows batches =>
        refine .inl ⟨rows, batches, writing, rfl, ?_, ?_⟩
        · rw [writing, value, overwritten_rows]
        · rw [writing, value, overwritten_batches]
    | status | cancel =>
        refine .inr ⟨by simp, ?_, ?_⟩
        · rw [writing, value, overwritten_rows, counted.rows]
        · rw [writing, value, overwritten_batches, counted.batches]
  · simp only [writing, if_false] at value
    exact .inr ⟨fun both => writing both.1, (value _).trans counted.rows, (value _).trans counted.batches⟩

end Calls

end JobUpdate

namespace Race

variable {ι : Type} [DecidableEq ι] {h : HashedJobs} {id : String} {updates : ι → JobUpdate} {table : HashTable}
  {turns : Nat → ι × Moment} {count : Nat} {first : Nat × Nat}

/-- All callers have an update of one job to make, and nobody has made a call. -/
def ofUpdates (h : HashedJobs) (id : String) (updates : ι → JobUpdate) (table : HashTable) : Race ι where
  table
  callers i := (updates i).dialogue h id .reading

/-! ## Who wrote the counts -/

section Counts

variable {r : Race ι} {n : Nat} {counts : Nat × Nat}

/-- By a turn somebody writes these counts of the progress. -/
def WritesCounts (r : Race ι) (updates : ι → JobUpdate) (turns : Nat → ι × Moment) (n : Nat) (counts : Nat × Nat) :
    Prop :=
  r.Writes turns (turns n).1 n ∧ updates (turns n).1 = .progress counts.1 counts.2

/-- Of the counts written by so many turns these were written last; if none were, they are the first ones. -/
def LastCounts (r : Race ι) (updates : ι → JobUpdate) (turns : Nat → ι × Moment) (first : Nat × Nat) (n : Nat)
    (counts : Nat × Nat) : Prop :=
  (counts = first ∧ ∀ l < n, ∀ other, ¬r.WritesCounts updates turns l other) ∨
    ∃ l < n, r.WritesCounts updates turns l counts ∧
      ∀ k, l < k → k < n → ∀ other, ¬r.WritesCounts updates turns k other

theorem LastCounts.written (writes : r.WritesCounts updates turns n counts) :
    r.LastCounts updates turns first (n + 1) counts :=
  .inr ⟨n, Nat.lt_succ_self n, writes, fun _ after before => absurd (Nat.lt_of_lt_of_le after (Nat.le_of_lt_succ before))
    (Nat.lt_irrefl n)⟩

theorem LastCounts.kept (last : r.LastCounts updates turns first n counts)
    (unwritten : ∀ other, ¬r.WritesCounts updates turns n other) :
    r.LastCounts updates turns first (n + 1) counts := by
  have none_ {k : Nat} (earlier : k < n → ∀ other, ¬r.WritesCounts updates turns k other) (lt : k < n + 1) :
      ∀ other, ¬r.WritesCounts updates turns k other := by
    rcases Nat.lt_or_eq_of_le (Nat.le_of_lt_succ lt) with before | rfl
    · exact earlier before
    · exact unwritten
  rcases last with ⟨same, never⟩ | ⟨l, lt, writes, never⟩
  · exact .inl ⟨same, fun k => none_ (never k)⟩
  · exact .inr ⟨l, Nat.lt_succ_of_lt lt, writes, fun k after => none_ (never k after)⟩

end Counts

/-! ## Turns -/

/-- Each caller has come as far as a stage says, and a request to cancel is there once it was written. -/
structure Follows (h : HashedJobs) (id : String) (updates : ι → JobUpdate) (r : Race ι) (stage : ι → Stage) : Prop where
  callers : ∀ i, r.callers i = (updates i).dialogue h id (stage i)
  asked : ∀ i, updates i = .cancel → (stage i).Written → JobUpdate.Asked h id r.table

section Turn

variable {r : Race ι} {stage : ι → Stage} {now : Moment} (live : r.table.LiveAt (h.key id) now)
  (known : (Keyed.find? r.table (h.key id)).isSome = true)
include live known

theorem Follows.turn_eq (f : r.Follows h id updates stage) (i : ι) :
    ∃ allowed, ((∀ w, updates i ≠ .status w) → allowed = true) ∧
      r.turn i now = ⟨(updates i).act h id now r.table (stage i),
        Function.update r.callers i ((updates i).dialogue h id (JobUpdate.next allowed (stage i)))⟩ := by
  rw [← HashTable.find?_prune live] at known
  by_cases last : stage i = .touching
  · have touches := f.callers i
    rw [last, JobUpdate.dialogue_touching] at touches
    refine ⟨true, fun _ => rfl, ?_⟩
    rw [turn_expire touches, last, JobUpdate.next, JobUpdate.dialogue_finished]
    rfl
  · obtain ⟨allowed, permitted, step⟩ := JobUpdate.step_dialogue known (updates i) last
    rw [← f.callers i] at step
    exact ⟨allowed, permitted, Race.turn_eq step⟩

theorem Follows.turn (f : r.Follows h id updates stage) (i : ι) :
    ∃ stage', (r.turn i now).Follows h id updates stage' := by
  obtain ⟨allowed, permitted, turned⟩ := f.turn_eq live known i
  refine ⟨Function.update stage i (JobUpdate.next allowed (stage i)), fun j => ?_, fun j cancels reached => ?_⟩
  all_goals rw [turned]
  · by_cases same : j = i
    · subst same
      simp only [Function.update_self]
    · simp only [Function.update_of_ne same, f.callers j]
  · by_cases same : j = i
    · subst same
      rw [Function.update_self, permitted fun w other => by rw [cancels] at other; cases other] at reached
      simp only [cancels]
      exact JobUpdate.asked_act_cancel live (f.asked j cancels) reached
    · rw [Function.update_of_ne same] at reached
      exact JobUpdate.asked_act live (f.asked j cancels reached) _ _

end Turn

theorem Follows.writesCounts_iff {r : Race ι} {n : Nat} {stage : ι → Stage}
    (f : (r.after turns n).Follows h id updates stage) (counts : Nat × Nat) :
    r.WritesCounts updates turns n counts ↔
      stage (turns n).1 = .writing ∧ updates (turns n).1 = .progress counts.1 counts.2 := by
  rw [WritesCounts, Writes, f.callers]
  refine and_congr_left fun progress => ?_
  rw [progress]
  cases stage (turns n).1 <;>
    simp [JobUpdate.dialogue, HashedJobs.setProgress, HashedJobs.touch, Dialogue.isWrite]

/-! ## Any number of turns -/

/-- After so many turns the callers follow their updates, and the counts that are kept were written last. -/
structure Course (h : HashedJobs) (id : String) (updates : ι → JobUpdate) (turns : Nat → ι × Moment)
    (first : Nat × Nat) (r : Race ι) (n : Nat) : Prop where
  follows : ∃ stage, (r.after turns n).Follows h id updates stage
  counts : ∃ counts, r.LastCounts updates turns first n counts ∧ JobUpdate.Counted h id (r.after turns n).table counts

section Course

variable {r : Race ι} {n : Nat}

theorem Course.known (c : r.Course h id updates turns first n) :
    (Keyed.find? (r.after turns n).table (h.key id)).isSome = true := by
  obtain ⟨_, -, counted⟩ := c.counts
  exact counted.find?_isSome

theorem Course.succ (c : r.Course h id updates turns first n)
    (live : (r.after turns n).table.LiveAt (h.key id) (turns n).2) : r.Course h id updates turns first (n + 1) := by
  obtain ⟨stage, follows⟩ := c.follows
  obtain ⟨counts, last, counted⟩ := c.counts
  refine ⟨follows.turn live c.known (turns n).1, ?_⟩
  obtain ⟨_, -, turned⟩ := follows.turn_eq live c.known (turns n).1
  rw [after, turned]
  rcases JobUpdate.counted_act live counted (updates (turns n).1) (stage (turns n).1) with
    ⟨rows, batches, writing, progress, counted'⟩ | ⟨other, counted'⟩
  · exact ⟨(rows, batches), .written ((follows.writesCounts_iff _).mpr ⟨writing, progress⟩), counted'⟩
  · refine ⟨counts, last.kept fun counts' writes => other ?_, counted'⟩
    obtain ⟨writing, progress⟩ := (follows.writesCounts_iff _).mp writes
    exact ⟨writing, _, _, progress⟩

theorem course (known : JobUpdate.Counted h id table first)
    (live : (ofUpdates h id updates table).NothingExpires (h.key id) turns count) :
    ∀ n ≤ count, (ofUpdates h id updates table).Course h id updates turns first n := by
  intro n
  induction n with
  | zero =>
      exact fun _ => ⟨⟨fun _ => .reading, fun _ => rfl, fun _ _ reached => absurd reached (by decide)⟩,
        first, .inl ⟨rfl, fun _ lt => absurd lt (Nat.not_lt_zero _)⟩, known⟩
  | succ n ih => exact fun bound => (ih (Nat.le_of_succ_le bound)).succ (live n bound)

theorem asked_of_le (course : ∀ n ≤ count, r.Course h id updates turns first n)
    (live : r.NothingExpires (h.key id) turns count) {k m : Nat} (le : k ≤ m) (bound : m ≤ count)
    (asked : JobUpdate.Asked h id (r.after turns k).table) : JobUpdate.Asked h id (r.after turns m).table := by
  induction m, le using Nat.le_induction with
  | base => exact asked
  | succ m le ih =>
      have before := course m (Nat.le_of_succ_le bound)
      obtain ⟨stage, follows⟩ := before.follows
      obtain ⟨_, -, turned⟩ := follows.turn_eq (live m bound) before.known (turns m).1
      rw [after, turned]
      exact JobUpdate.asked_act (live m bound) (ih (Nat.le_of_succ_le bound)) _ _

end Course

/-- However the calls of those who change the status of a job, report its progress or ask it to stop fall between each
    other: once somebody has asked it to stop and has nothing left to do, everybody is told so; and the counts that are
    kept are at every moment those of one report, the last one that was written, or the first ones. -/
theorem updates_keep_request_and_counts (h : HashedJobs) (id : String) (updates : ι → JobUpdate) (table : HashTable)
    (turns : Nat → ι × Moment) (count : Nat) (first : Nat × Nat) (known : JobUpdate.Counted h id table first)
    (live : (ofUpdates h id updates table).NothingExpires (h.key id) turns count) :
    (∀ i k m now, k ≤ m → m ≤ count → updates i = .cancel →
      ((ofUpdates h id updates table).after turns k).callers i = .done () →
      ((ofUpdates h id updates table).after turns m).table.LiveAt (h.key id) now →
      (((h.cancelRequested id).hold HashTable.store).on
        (((ofUpdates h id updates table).after turns m).table, now)).1 = .ok true) ∧
    ∀ m ≤ count, ∃ counts, (ofUpdates h id updates table).LastCounts updates turns first m counts ∧
      JobUpdate.Counted h id ((ofUpdates h id updates table).after turns m).table counts := by
  have course := course known live
  refine ⟨fun i k m now le bound cancels done live' => ?_, fun m bound => (course m bound).counts⟩
  obtain ⟨stage, follows⟩ := (course k (Nat.le_trans le bound)).follows
  rw [follows.callers i] at done
  have asked := follows.asked i cancels (.inr (JobUpdate.finished_of_done done))
  have still := asked_of_le course live le bound asked
  rw [JobUpdate.Asked, ← HashTable.value_prune live'] at still
  simp only [HashedJobs.cancelRequested, Dialogue.hold]
  rw [ActionOf.on_bind_ok (HashTable.on_find? ..), still]
  rfl

/-- One caller reports progress, one asks the job to stop, and one begins to work on it. -/
def reportCancelBegin : Fin 3 → JobUpdate
  | 0 => .progress 7 2
  | 1 => .cancel
  | 2 => .status ⟨.processing, none, none, midnight⟩

/-- The three of them have their turns in this order, and again. -/
def inOrder (n : Nat) : Fin 3 × Moment := (Fin.ofNat 3 n, ⟨n, midnight⟩)

theorem reportCancelBegin_told :
    (((HashedJobs.cancelRequested ⟨"job:", 1000⟩ "1").hold HashTable.store).on
      (((ofUpdates ⟨"job:", 1000⟩ "1" reportCancelBegin [("job:1", ⟨Job.freshFields "1" midnight, none⟩)]).after
        inOrder 9).table, ⟨9, midnight⟩)).1 = .ok true :=
  (updates_keep_request_and_counts ⟨"job:", 1000⟩ "1" reportCancelBegin [("job:1", ⟨Job.freshFields "1" midnight, none⟩)]
    inOrder 9 (0, 0) ⟨by decide, by decide⟩ (by decide)).1 1 8 9 ⟨9, midnight⟩ (by decide) (by decide) rfl (by rfl)
    (by decide)

end Race

end SheetExport
