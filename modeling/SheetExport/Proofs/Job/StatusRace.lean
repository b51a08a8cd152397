import Mathlib.Data.Nat.Init
import SheetExport.Proofs.Calendar.Timestamp
import SheetExport.Proofs.Job.Race
import SheetExport.Proofs.Job.Record

/-! # Late writers

A change of status reads the status, decides, and writes. Between its reading and its writing somebody else
may end the job, and then the write brings the job back. This happens exactly to callers who are overtaken in
this way: all others are stopped by what they read. `Standing` keeps of a race what decides this, namely the
status of the job and how far each caller has come, and every turn of a race is a turn of its standing.
-/

namespace SheetExport

/-- A change of status that somebody wants, with what is to be noted beside it. -/
structure StatusWish where
  status : JobStatus
  locator : Option String
  errorMessage : Option String
  time : Timestamp

/-- How far a change of status has come. -/
inductive Stage where
  | reading
  | writing
  | touching
  | finished
  deriving DecidableEq, Repr

/-- What is left to do of a change of status. -/
def Stage.dialogue (h : HashedJobs) (id : String) (w : StatusWish) : Stage → Dialogue Unit
  | reading => h.setStatus id w.status w.locator w.errorMessage w.time
  | writing => .putAll (h.key id) (Job.statusFields w.status w.locator w.errorMessage w.time) (h.touch id)
  | touching => h.touch id
  | finished => .done ()

def HashTable.status? (t : HashTable) (key : String) : Option JobStatus :=
  (t.value key JobField.status.name).bind JobStatus.ofName?

/-! ## The standing of a race -/

/-- The status of a job and how far each of those who want to change it has come. -/
structure Standing (ι : Type) where
  status : JobStatus
  stage : ι → Stage

namespace Standing

variable {ι : Type} [DecidableEq ι] {wish : ι → JobStatus} {s : Standing ι} {who : Nat → ι}

def turn (wish : ι → JobStatus) (s : Standing ι) (i : ι) : Standing ι :=
  match s.stage i with
  | .reading =>
      let next : Stage := if s.status.transitionTo (wish i) = .apply then .writing else .finished
      { s with stage := Function.update s.stage i next }
  | .writing => ⟨wish i, Function.update s.stage i .touching⟩
  | .touching | .finished => { s with stage := Function.update s.stage i .finished }

def after (wish : ι → JobStatus) (s : Standing ι) (who : Nat → ι) : Nat → Standing ι
  | 0 => s
  | n + 1 => (s.after wish who n).turn wish (who n)

def Reads (wish : ι → JobStatus) (s : Standing ι) (who : Nat → ι) (i : ι) (n : Nat) : Prop :=
  who n = i ∧ (s.after wish who n).stage i = .reading

def Writes (wish : ι → JobStatus) (s : Standing ι) (who : Nat → ι) (i : ι) (n : Nat) : Prop :=
  who n = i ∧ (s.after wish who n).stage i = .writing

theorem status_of_writes {i n} (h : Writes wish s who i n) : (s.after wish who (n + 1)).status = wish i := by
  obtain ⟨rfl, writing⟩ := h
  simp only [after, turn, writing]

theorem status_of_not_writes {n} (h : (s.after wish who n).stage (who n) ≠ .writing) :
    (s.after wish who (n + 1)).status = (s.after wish who n).status := by
  simp only [after, turn]
  split <;> simp_all

theorem exists_writes {k m : Nat} {t : JobStatus} (le : k ≤ m) (before : (s.after wish who k).status ≠ t)
    (now : (s.after wish who m).status = t) :
    ∃ j l, k ≤ l ∧ l < m ∧ Writes wish s who j l ∧ wish j = t := by
  induction m, le using Nat.le_induction with
  | base => exact absurd now before
  | succ m le ih =>
      by_cases writing : (s.after wish who m).stage (who m) = .writing
      · exact ⟨who m, m, le, Nat.lt_succ_self m, ⟨rfl, writing⟩,
          (status_of_writes ⟨rfl, writing⟩).symm.trans now⟩
      · rw [status_of_not_writes writing] at now
        obtain ⟨j, l, after, before, written⟩ := ih now
        exact ⟨j, l, after, Nat.lt_succ_of_lt before, written⟩

theorem exists_reads (begun : ∀ i, s.stage i = .reading) {i : ι} {m : Nat}
    (writing : (s.after wish who m).stage i = .writing) :
    ∃ k, k < m ∧ Reads wish s who i k ∧ (s.after wish who k).status.transitionTo (wish i) = .apply := by
  induction m with
  | zero => simp [after, begun i] at writing
  | succ m ih =>
      simp only [after, turn] at writing
      by_cases mine : i = who m
      · subst mine
        split at writing
        · next reading =>
            simp only [Function.update_self] at writing
            split at writing
            · next allowed => exact ⟨m, Nat.lt_succ_self m, ⟨rfl, reading⟩, allowed⟩
            · cases writing
        all_goals simp at writing
      · have earlier : (s.after wish who m).stage i = .writing := by
          split at writing <;> simpa [Function.update_of_ne mine] using writing
        obtain ⟨k, before, read⟩ := ih earlier
        exact ⟨k, Nat.lt_succ_of_lt before, read⟩

/-- A job that has ended stays as it ended. -/
def KeepsEnd (wish : ι → JobStatus) (s : Standing ι) (who : Nat → ι) (turns : Nat) : Prop :=
  ∀ k m, k ≤ m → m ≤ turns → (s.after wish who k).status.isTerminal →
    (s.after wish who m).status = (s.after wish who k).status

/-- Nobody writes after somebody else has ended the job otherwise since they read. -/
def NobodyOvertaken (wish : ι → JobStatus) (s : Standing ι) (who : Nat → ι) (turns : Nat) : Prop :=
  ∀ i j k l m, k < l → l < m → m < turns → Reads wish s who i k → Writes wish s who j l →
    Writes wish s who i m → (wish j).isTerminal → wish j = wish i

theorem nobodyOvertaken_of_keepsEnd {turns : Nat} (kept : KeepsEnd wish s who turns) :
    NobodyOvertaken wish s who turns := by
  intro i j k l m _ lm mn _ ended written final
  have first := status_of_writes ended
  have last := status_of_writes written
  rw [← first, ← last]
  exact (kept (l + 1) (m + 1) (by omega) (by omega) (first ▸ final)).symm

theorem keepsEnd_of_nobodyOvertaken (begun : ∀ i, s.stage i = .reading) {turns : Nat}
    (calm : NobodyOvertaken wish s who turns) : KeepsEnd wish s who turns := by
  intro k m le
  -- The first write that changes the final status is by somebody who read before the job had ended.
  induction m, le using Nat.le_induction with
  | base => intros; rfl
  | succ m le ih =>
      intro bound final
      have same := ih (by omega) final
      by_cases writing : (s.after wish who m).stage (who m) = .writing
      · have written : Writes wish s who (who m) m := ⟨rfl, writing⟩
        obtain ⟨r, rm, read, allowed⟩ := exists_reads begun writing
        have open_ := JobStatus.not_terminal_of_apply allowed
        have other : (s.after wish who r).status ≠ (s.after wish who k).status := by
          intro equal
          rw [equal, final] at open_
          cases open_
        obtain ⟨j, l, rl, lm, ended, wished⟩ := exists_writes (Nat.le_of_lt rm) other same
        have later : r < l := by
          refine Nat.lt_of_le_of_ne rl ?_
          rintro rfl
          obtain ⟨at_, reading⟩ := read
          obtain ⟨rfl, writing⟩ := ended
          rw [at_, reading] at writing
          cases writing
        rw [status_of_writes written, ← wished]
        exact (calm _ j r l m later lm (by omega) read ended written (wished ▸ final)).symm
      · rw [status_of_not_writes writing, same]

end Standing

/-! ## The standing is kept by the turns of the race -/

theorem HashTable.status?_prune {t : HashTable} {key : String} {now : Moment} (live : t.LiveAt key now) :
    status? (t.prune now) key = t.status? key := by
  rw [status?, value_prune live, status?]

theorem Job.find?_statusFields (status : JobStatus) (locator errorMessage : Option String)
    (now : Timestamp) :
    Keyed.find? (Job.statusFields status locator errorMessage now).reverse JobField.status.name =
      some status.name := by
  cases locator <;> cases errorMessage <;> rfl

theorem HashTable.status?_write (t : HashTable) (key : String) (w : StatusWish) :
    (t.write key (Job.statusFields w.status w.locator w.errorMessage w.time)).status? key =
      some w.status := by
  rw [status?, value_write, Job.find?_statusFields, Option.some_or, Option.bind_some, JobStatus.ofName?_name]

theorem HashTable.status?_postpone (now : Moment) (t : HashTable) (key : String) (lifetime : Nat) :
    (t.postpone now key lifetime).2.status? key = t.status? key := by
  rw [status?, value_postpone, status?]

namespace Race

variable {ι : Type} [DecidableEq ι] {h : HashedJobs} {id : String} {wishes : ι → StatusWish}

/-- A job is in the table, and its status and the callers are as a standing says. -/
structure Stands (h : HashedJobs) (id : String) (wishes : ι → StatusWish) (r : Race ι) (s : Standing ι) :
    Prop where
  status : r.table.status? (h.key id) = some s.status
  callers : ∀ i, r.callers i = (s.stage i).dialogue h id (wishes i)

theorem update_stage {r : Race ι} {s : Standing ι} (st : r.Stands h id wishes s) (i : ι) (next : Stage) :
    ∀ j, Function.update r.callers i (next.dialogue h id (wishes i)) j =
      (Function.update s.stage i next j).dialogue h id (wishes j) := by
  intro j
  by_cases same : j = i
  · subst same
    simp only [Function.update_self]
  · rw [Function.update_of_ne same, Function.update_of_ne same, st.callers j]

theorem Stands.turn {r : Race ι} {s : Standing ι} (st : r.Stands h id wishes s) (i : ι) {now : Moment}
    (live : r.table.LiveAt (h.key id) now) :
    (r.turn i now).Stands h id wishes (s.turn (fun i => (wishes i).status) i) := by
  have callers := st.callers i
  have kept : HashTable.status? (r.table.prune now) (h.key id) = some s.status := by
    rw [HashTable.status?_prune live, st.status]
  cases stage : s.stage i with
  | reading =>
      let next : Stage := if s.status.transitionTo (wishes i).status = .apply then .writing else .finished
      have step : ((r.callers i).step HashTable.store).on (r.table, now) =
          (.ok (next.dialogue h id (wishes i)), r.table.prune now, now) := by
        rw [callers, stage]
        simp only [Stage.dialogue, HashedJobs.setStatus, Dialogue.step]
        rw [ActionOf.on_bind_ok (HashTable.on_find? ..), ActionOf.on_pure]
        rw [HashTable.status?] at kept
        simp only [kept, next]
        cases s.status.transitionTo (wishes i).status <;> rfl
      rw [turn_eq step]
      simp only [Standing.turn, stage]
      exact ⟨kept, update_stage st i next⟩
  | writing =>
      have step : ((r.callers i).step HashTable.store).on (r.table, now) =
          (.ok (Stage.touching.dialogue h id (wishes i)), (r.table.prune now).write (h.key id)
            (Job.statusFields (wishes i).status (wishes i).locator (wishes i).errorMessage (wishes i).time),
            now) := by
        rw [callers, stage]
        rfl
      rw [turn_eq step]
      simp only [Standing.turn, stage]
      exact ⟨HashTable.status?_write .., update_stage st i .touching⟩
  | touching =>
      have last : r.callers i = .expire (h.key id) h.retention (.done ()) := by
        rw [callers, stage]
        rfl
      rw [turn_expire last]
      simp only [Standing.turn, stage]
      exact ⟨(HashTable.status?_postpone ..).trans kept, update_stage st i .finished⟩
  | finished =>
      have step : ((r.callers i).step HashTable.store).on (r.table, now) =
          (.ok (Stage.finished.dialogue h id (wishes i)), r.table, now) := by
        rw [callers, stage]
        rfl
      rw [turn_eq step]
      simp only [Standing.turn, stage]
      exact ⟨st.status, update_stage st i .finished⟩

/-- All callers want to change the status of one job, and nobody has made a call. -/
def ofWishes (h : HashedJobs) (id : String) (wishes : ι → StatusWish) (table : HashTable) : Race ι where
  table
  callers i := Stage.reading.dialogue h id (wishes i)

/-- What is kept of a job has not expired in any of so many turns. -/
def NothingExpires (r : Race ι) (key : String) (turns : Nat → ι × Moment) (count : Nat) : Prop :=
  ∀ n < count, (r.after turns n).table.LiveAt key (turns n).2

instance (r : Race ι) (key : String) (turns : Nat → ι × Moment) (count : Nat) :
    Decidable (r.NothingExpires key turns count) :=
  inferInstanceAs (Decidable (∀ n < count, (r.after turns n).table.LiveAt key (turns n).2))

theorem stands_after {table : HashTable} {first : JobStatus} {turns : Nat → ι × Moment} {count : Nat}
    (known : table.status? (h.key id) = some first)
    (live : (ofWishes h id wishes table).NothingExpires (h.key id) turns count) :
    ∀ n ≤ count, ((ofWishes h id wishes table).after turns n).Stands h id wishes
      (Standing.after (fun i => (wishes i).status) ⟨first, fun _ => .reading⟩ (fun n => (turns n).1) n) := by
  intro n
  induction n with
  | zero => exact fun _ => ⟨known, fun _ => rfl⟩
  | succ n ih => exact fun bound => (ih (by omega)).turn _ (live n (by omega))

def Looks (r : Race ι) (turns : Nat → ι × Moment) (i : ι) (n : Nat) : Prop :=
  (turns n).1 = i ∧ ((r.after turns n).callers i).isLook = true

def Writes (r : Race ι) (turns : Nat → ι × Moment) (i : ι) (n : Nat) : Prop :=
  (turns n).1 = i ∧ ((r.after turns n).callers i).isWrite = true

/-- Once a job has ended, its status stays what it is. -/
def KeepsEnd (r : Race ι) (key : String) (turns : Nat → ι × Moment) (count : Nat) : Prop :=
  ∀ k m s, k ≤ m → m ≤ count → (r.after turns k).table.status? key = some s → s.isTerminal →
    (r.after turns m).table.status? key = some s

/-- Nobody writes after somebody else, since they looked, has ended the job otherwise. -/
def NobodyOvertaken (r : Race ι) (wish : ι → JobStatus) (turns : Nat → ι × Moment) (count : Nat) : Prop :=
  ∀ i j k l m, k < l → l < m → m < count → r.Looks turns i k → r.Writes turns j l →
    r.Writes turns i m → (wish j).isTerminal → wish j = wish i

section

variable {r : Race ι} {s : Standing ι} {turns : Nat → ι × Moment} {count : Nat}
  (stands : ∀ n ≤ count, (r.after turns n).Stands h id wishes
    (s.after (fun i => (wishes i).status) (fun n => (turns n).1) n))

include stands

theorem looks_iff {i : ι} {n : Nat} (bound : n ≤ count) : r.Looks turns i n ↔
    s.Reads (fun i => (wishes i).status) (fun n => (turns n).1) i n := by
  rw [Looks, Standing.Reads, (stands n bound).callers i]
  cases (s.after (fun i => (wishes i).status) (fun n => (turns n).1) n).stage i <;>
    simp [Stage.dialogue, HashedJobs.setStatus, HashedJobs.touch, Dialogue.isLook]

theorem writes_iff {i : ι} {n : Nat} (bound : n ≤ count) : r.Writes turns i n ↔
    s.Writes (fun i => (wishes i).status) (fun n => (turns n).1) i n := by
  rw [Writes, Standing.Writes, (stands n bound).callers i]
  cases (s.after (fun i => (wishes i).status) (fun n => (turns n).1) n).stage i <;>
    simp [Stage.dialogue, HashedJobs.setStatus, HashedJobs.touch, Dialogue.isWrite]

theorem keepsEnd_iff : r.KeepsEnd (h.key id) turns count ↔
    s.KeepsEnd (fun i => (wishes i).status) (fun n => (turns n).1) count := by
  constructor
  · intro kept k m km bound final
    have later := kept k m _ km bound (stands k (by omega)).status final
    rw [(stands m bound).status] at later
    exact Option.some.inj later
  · intro kept k m t km bound now final
    rw [(stands k (by omega)).status] at now
    obtain rfl := Option.some.inj now
    rw [(stands m bound).status, kept k m km bound final]

theorem nobodyOvertaken_iff : r.NobodyOvertaken (fun i => (wishes i).status) turns count ↔
    s.NobodyOvertaken (fun i => (wishes i).status) (fun n => (turns n).1) count := by
  constructor
  · intro calm i j k l m kl lm bound looked ended written
    exact calm i j k l m kl lm bound ((looks_iff stands (by omega)).mpr looked)
      ((writes_iff stands (by omega)).mpr ended) ((writes_iff stands (by omega)).mpr written)
  · intro calm i j k l m kl lm bound looked ended written
    exact calm i j k l m kl lm bound ((looks_iff stands (by omega)).mp looked)
      ((writes_iff stands (by omega)).mp ended) ((writes_iff stands (by omega)).mp written)

end

/-- However the calls of those who want to change the status of a job fall between each other, a job that has
    ended stays as it ended if and only if nobody is overtaken between looking and writing. -/
theorem end_kept_iff_nobody_overtaken (h : HashedJobs) (id : String) (wishes : ι → StatusWish)
    (table : HashTable) (turns : Nat → ι × Moment) (count : Nat) (first : JobStatus)
    (known : table.status? (h.key id) = some first)
    (live : (ofWishes h id wishes table).NothingExpires (h.key id) turns count) :
    (ofWishes h id wishes table).KeepsEnd (h.key id) turns count ↔
      (ofWishes h id wishes table).NobodyOvertaken (fun i => (wishes i).status) turns count := by
  have stands := stands_after known live
  rw [keepsEnd_iff stands, nobodyOvertaken_iff stands]
  exact ⟨Standing.nobodyOvertaken_of_keepsEnd, Standing.keepsEnd_of_nobodyOvertaken fun _ => rfl⟩

/-! ## A job that is brought back -/

/-- One caller begins to work on the job, the other one completes it. -/
def beginOrComplete : Bool → StatusWish
  | true => ⟨.processing, none, none, midnight⟩
  | false => ⟨.completed, some "memory://1.xlsx", none, midnight⟩

def beginAndComplete : Race Bool :=
  ofWishes ⟨"job:", 1000⟩ "1" beginOrComplete [("job:1", ⟨Job.freshFields "1" midnight, none⟩)]

/-- Who begins looks first and writes last. -/
def overtaking (n : Nat) : Bool × Moment := ([true, false, false, false].getD n true, ⟨n, midnight⟩)

/-- The job was completed, and then it is in progress again with a blank time of completion. -/
theorem late_writer_reopens :
    (beginAndComplete.after overtaking 4).table.status? "job:1" = some .completed ∧
      (beginAndComplete.after overtaking 5).table.status? "job:1" = some .processing ∧
      (beginAndComplete.after overtaking 5).table.value "job:1" JobField.completedAt.name = some "" := by
  decide

/-- Who begins is overtaken. -/
theorem beginner_overtaken :
    ¬ beginAndComplete.NobodyOvertaken (fun i => (beginOrComplete i).status) overtaking 5 := by
  intro calm
  have kept := (end_kept_iff_nobody_overtaken ⟨"job:", 1000⟩ "1" beginOrComplete
    [("job:1", ⟨Job.freshFields "1" midnight, none⟩)] overtaking 5 .ready (by decide) (by decide)).mpr calm
  exact absurd (kept 4 5 .completed (by decide) (by decide) (by decide) rfl) (by decide)

end Race

end SheetExport
