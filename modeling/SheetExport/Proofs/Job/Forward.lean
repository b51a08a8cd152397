import Mathlib.Data.List.Induction
import SheetExport.Proofs.Job.Use

/-! # Jobs move forward

A job that stays in a store only moves forward, whichever store it is and whatever is done with it. In memory it is
because of what is written there; in a table of hashes because of the fields that a call writes, of which those that
tell a status are only written to a job that has not ended.
-/

namespace SheetExport

/-! ## In memory -/

namespace MemoryJobs

variable {limits : JobLimits} {made : List String} {s : MemoryJobs} {now : Moment} {u : JobUse} {id : String}
  {job : Job}

/-- Jobs that were made are in memory, each once, and just those that have ended tell when. -/
structure Sound (limits : JobLimits) (made : List String) (s : MemoryJobs) : Prop where
  room : s.size ≤ limits.maxJobs
  unlike : (s.kept.map fun k => k.job.id).Nodup
  jobs : ∀ k ∈ s.kept, k.job.id ∈ made ∧ k.job.Dated

theorem find?_of_evictFirst {n : Nat} (unlike : (s.kept.map fun k => k.job.id).Nodup)
    (found : (s.evictFirst n).find? id = some job) : s.find? id = some job := by
  have fewer : (s.kept.drop n).Sublist s.kept := List.drop_sublist n s.kept
  obtain ⟨k, inside, same⟩ := (find?_iff (unlike.sublist (fewer.map _)) id job).mp found
  exact (find?_iff unlike id job).mpr ⟨k, fewer.mem inside, same⟩

theorem unlike_write (unlike : (s.kept.map fun k => k.job.id).Nodup) (now : Moment) (job : Job) :
    ((s.write now job).kept.map fun k => k.job.id).Nodup :=
  unlike_replaced unlike ⟨job, now.elapsed⟩

namespace Sound

theorem empty (limits : JobLimits) : Sound limits [] .empty :=
  ⟨Nat.zero_le _, List.nodup_nil, List.forall_mem_nil _⟩

theorem found (sound : Sound limits made s) (there : s.find? id = some job) : id ∈ made ∧ job.Dated := by
  obtain ⟨k, inside, rfl, rfl⟩ := (find?_iff sound.unlike id job).mp there
  exact sound.jobs k inside

theorem evictFirst (sound : Sound limits made s) (n : Nat) : Sound limits made (s.evictFirst n) where
  room := by
    rw [size_evictFirst]
    exact Nat.le_trans (Nat.sub_le _ _) sound.room
  unlike := sound.unlike.sublist ((List.drop_sublist n s.kept).map _)
  jobs k inside := sound.jobs k (List.mem_of_mem_drop inside)

/-- A use of the store leaves it sound. -/
theorem use (sound : Sound limits made s) (u : JobUse) (now : Moment) :
    Sound limits (made ++ u.made?.toList) (s.use limits u now) := by
  have expired : Sound limits made (s.expire limits now) := sound.evictFirst _
  have more (k : KeptJob) (inside : k ∈ (s.expire limits now).kept) :
      k.job.id ∈ made ++ u.made?.toList ∧ k.job.Dated :=
    ⟨List.mem_append_left _ (expired.jobs k inside).1, (expired.jobs k inside).2⟩
  rw [use_eq sound.room]
  cases change : u.written? (s.expire limits now).find? now.time with
  | none => exact ⟨expired.room, expired.unlike, more⟩
  | some job =>
      have new : job.id ∈ made ++ u.made?.toList ∧ job.Dated := by
        cases makes : u.made? with
        | none =>
            obtain ⟨id, old, known, moves, dated⟩ := JobUse.advances_of_written change makes
            obtain ⟨inside, ended⟩ := expired.found known
            rw [moves.id, id_of_find? known]
            exact ⟨List.mem_append_left _ inside, dated ended⟩
        | some id =>
            rw [JobUse.written_of_made makes] at change
            cases change
            exact ⟨List.mem_append_right _ List.mem_cons_self, rfl⟩
      constructor
      case room =>
        refine Nat.le_trans (Nat.le_of_eq (size_evictFirst _ _)) ?_
        omega
      case unlike => exact (unlike_write expired.unlike now job).sublist ((List.drop_sublist _ _).map _)
      case jobs =>
        intro k inside
        rcases List.mem_append.mp (List.mem_of_mem_drop inside) with old | last
        · exact more k (List.mem_filter.mp old).1
        · rw [List.mem_singleton.mp last]
          exact new

/-- A job that is found after a use, and was not made by it, was found before. -/
theorem use_back (sound : Sound limits made s) (unmade : u.made? ≠ some id)
    (there : (s.use limits u now).find? id = some job) :
    ∃ old, (s.expire limits now).find? id = some old ∧ old.Advances job := by
  have expired : Sound limits made (s.expire limits now) := sound.evictFirst _
  rw [use_eq sound.room] at there
  cases change : u.written? (s.expire limits now).find? now.time with
  | none =>
      rw [change] at there
      exact ⟨job, there, .refl job⟩
  | some written =>
      rw [change] at there
      have wrote := find?_of_evictFirst (unlike_write expired.unlike now written) there
      rw [find?_write] at wrote
      by_cases here : id = written.id
      · rw [if_pos here] at wrote
        cases wrote
        cases makes : u.made? with
        | none =>
            obtain ⟨name, old, known, moves, -⟩ := JobUse.advances_of_written change makes
            rw [here, moves.id, id_of_find? known]
            exact ⟨old, known, moves⟩
        | some name =>
            rw [JobUse.written_of_made makes] at change
            cases change
            exact absurd (makes.trans (congrArg some here.symm)) unmade
      · rw [if_neg here] at wrote
        exact ⟨job, wrote, .refl job⟩

/-- To wish for the status that a job has is to look at it. -/
theorem setStatus_same (sound : Sound limits made s) (there : (s.expire limits now).find? id = some job)
    (locator errorMessage : Option String) :
    ((store limits).setStatus id job.status locator errorMessage).on (s, now) =
      (.ok (), (((store limits).find? id).on (s, now)).2) := by
  have expired : Sound limits made (s.expire limits now) := sound.evictFirst _
  have none_ : job.moveTo? job.status locator errorMessage now.time = none := by
    rw [Job.moveTo?, JobStatus.transitionTo, if_pos rfl]
  have calm : s.update limits id (fun j => j.moveTo? job.status locator errorMessage now.time) now =
      s.expire limits now := by
    rw [update, there, Option.bind_some, none_]
    exact enforceCapacity_of_room expired.room
  exact congrArg (fun t => ((.ok () : Except ExportError Unit), t, now)) calm

end Sound

end MemoryJobs

/-! ## In a table of hashes -/

namespace Job

/-- What fields tell of a job, but when it was made and how far it has come. -/
structure ReadFrom (values : String → Option String) (id : String) (j : Job) : Prop where
  id : j.id = id
  status : (values JobField.status.name).bind JobStatus.ofName? = some j.status
  locator : j.locator = (values JobField.locator.name).filter (!Text.isBlankText ·)
  errorMessage : j.errorMessage = (values JobField.errorMessage.name).filter (!Text.isBlankText ·)
  cancelRequested : j.cancelRequested = (values JobField.cancelRequested.name == some (boolText true))
  completedAt : j.completedAt = (values JobField.completedAt.name).bind Timestamp.read?

/-- Fields tell a status, and just of a job that has ended when it did, if its times could be noted. -/
def Told (datable : Prop) (values : String → Option String) : Prop :=
  ∃ status : JobStatus, values JobField.status.name = some status.name ∧
    (datable → ((values JobField.completedAt.name).bind Timestamp.read?).isSome = status.isTerminal)

/-- Fields that are written to a job which there is, when the ones that it has have these values. -/
inductive Amends (values : String → Option String) (now : Timestamp) : Fields → Prop
  | status {current status : JobStatus} (locator errorMessage : Option String)
      (told : values JobField.status.name = some current.name) (apply : current.transitionTo status = .apply) :
      Amends values now (statusFields status locator errorMessage now)
  | progress (rows batches : Nat) : Amends values now (progressFields rows batches)
  | cancel : Amends values now [(JobField.cancelRequested.name, boolText true)]

variable {datable : Prop} {values : String → Option String} {id : String} {j k : Job} {now : Timestamp}
  {fields : Fields}

theorem readFrom_of_ofFields? (read : ofFields? id fields now = some j) : ReadFrom (Keyed.find? fields) id j := by
  rw [ofFields?] at read
  obtain ⟨status, known, rest⟩ := Option.bind_eq_some_iff.mp read
  cases rest
  exact ⟨rfl, known, rfl, rfl, rfl, rfl⟩

theorem Told.exists_ofFields? (told : Told datable (Keyed.find? fields)) (id : String) (now : Timestamp) :
    ∃ j, ofFields? id fields now = some j := by
  obtain ⟨status, named, -⟩ := told
  simp [ofFields?, named, JobStatus.ofName?_name]

namespace ReadFrom

theorem dated (read : ReadFrom values id j) (told : Told datable values) (all : datable) : j.Dated := by
  obtain ⟨status, named, ended⟩ := told
  have known := read.status
  rw [named, Option.bind_some, JobStatus.ofName?_name] at known
  cases known
  rw [Dated, read.completedAt, ended all]

theorem same (before : ReadFrom values id j) (after : ReadFrom values id k) : j.Advances k where
  id := after.id.trans before.id.symm
  status := .inl (Option.some.inj (after.status.symm.trans before.status))
  ended _ := ⟨Option.some.inj (after.status.symm.trans before.status), after.locator.trans before.locator.symm,
    after.errorMessage.trans before.errorMessage.symm, after.completedAt.trans before.completedAt.symm⟩
  wanted wanted := by rw [after.cancelRequested, ← before.cancelRequested, wanted]

/-- Whatever a call writes to a job moves it forward. -/
theorem amended (before : ReadFrom values id j) (amends : Amends values now fields)
    (after : ReadFrom (overwritten values fields) id k) : j.Advances k := by
  cases amends with
  | @status current status locator errorMessage told apply =>
      have known := before.status
      have wrote := after.status
      have texts := WrittenIn.overwritten_statusFields values status locator errorMessage now
      rw [told, Option.bind_some, JobStatus.ofName?_name] at known
      rw [texts .status, Option.bind_some, JobStatus.ofName?_name] at wrote
      cases known
      cases wrote
      constructor
      case id => exact after.id.trans before.id.symm
      case status => exact .inr (JobStatus.rank_lt_of_apply apply)
      case ended =>
        intro terminal
        rw [JobStatus.not_terminal_of_apply apply] at terminal
        cases terminal
      case wanted =>
        intro wanted
        rw [after.cancelRequested, texts .cancelRequested, ← before.cancelRequested, wanted]
  | progress =>
      exact before.same
        ⟨after.id, after.status, after.locator, after.errorMessage, after.cancelRequested, after.completedAt⟩
  | cancel =>
      have others : ReadFrom values id { k with cancelRequested := j.cancelRequested } :=
        ⟨after.id, after.status, after.locator, after.errorMessage, before.cancelRequested, after.completedAt⟩
      exact { before.same others with wanted := fun _ => after.cancelRequested }

end ReadFrom

theorem Told.fresh (datable : Prop) (id : String) (now : Timestamp) :
    Told datable (overwritten (fun _ => none) (freshFields id now)) :=
  ⟨.ready, rfl, fun _ => rfl⟩

/-- The fields of a job still tell a status, and when it ended, once others are written. -/
theorem Told.amended (told : Told datable values) (amends : Amends values now fields)
    (year : datable → 0 ≤ now.date.year ∧ now.date.year ≤ 9999) : Told datable (overwritten values fields) := by
  cases amends with
  | @status current status locator errorMessage _ apply =>
      have texts := WrittenIn.overwritten_statusFields values status locator errorMessage now
      refine ⟨status, texts .status, fun all => ?_⟩
      rw [texts .completedAt]
      cases status.isTerminal with
      | true =>
          obtain ⟨u, read⟩ := Timestamp.exists_read?_write now (year all).1 (year all).2
          simp [read]
      | false => rfl
  | progress | cancel => exact told

end Job

theorem Keyed.find?_insertAll_eq (fields news : Fields) :
    Keyed.find? (Keyed.insertAll fields news) = overwritten (Keyed.find? fields) news :=
  funext fun _ => Keyed.find?_insertAll _ _ _

namespace HashTable

variable {t : HashTable} {key : String} {now : Moment} {e : TableEntry}

theorem unlike_noted (unlike : (t.map Prod.fst).Nodup) (h : HashedJobs) (id : String) (fields : Fields)
    (now : Moment) : ((h.noted id fields now t).map Prod.fst).Nodup :=
  unlike_postpone (Keyed.unlike_insert unlike _ _) now _ _

/-! ### What has expired is dropped first -/

/-- It makes no difference to an action whether what has expired is still in the table. -/
def Prunes {α : Type} (a : Action (HashTable × Moment) α) : Prop :=
  ∀ t now, a.on (t.prune now, now) = a.on (t, now)

namespace Prunes

variable {α β : Type}

theorem after (f : Moment → HashTable → α × HashTable) : Prunes (after f) := by
  intro t now
  rw [HashTable.after, ActionOf.on_of, ActionOf.on_of]
  dsimp only
  rw [prune_of_live (live_prune now t)]

theorem bind {a : Action (HashTable × Moment) α} (prunes : Prunes a) (f : α → Action (HashTable × Moment) β) :
    Prunes (a >>= f) := by
  intro t now
  rw [ActionOf.on_bind, ActionOf.on_bind, prunes]

theorem hold (d : Dialogue α) (begun : ∀ a, d ≠ .done a) : Prunes (d.hold store) := by
  cases d with
  | done a => exact absurd rfl (begun a)
  | putAll | put | entries | find? | contains =>
      rw [Dialogue.hold]
      refine bind ?_ _
      dsimp only [store]
      exact after _
  | expire key lifetime rest =>
      refine bind (fun t now => ?_) _
      rw [on_expire, on_expire, prune_of_live (live_prune now t)]

theorem timed {d : Timestamp → Dialogue α} (begun : ∀ time a, d time ≠ .done a) :
    Prunes (HashedJobs.store.timed store (fun s : HashTable × Moment => s.2.time) d) := by
  intro t now
  rw [HashedJobs.on_timed, HashedJobs.on_timed]
  exact hold (d now.time) (begun now.time) t now

/-- Every call of a store that keeps jobs in a table drops what has expired first. -/
theorem ask (h : HashedJobs) (c : JobCall String) : Prunes (c.ask h.inTable .own) := by
  cases c with
  | create | find | setStatus => exact (timed (fun _ _ same => by cases same)).bind _
  | setProgress | requestCancel | cancelRequested => exact (hold _ fun _ same => by cases same).bind _

end Prunes

end HashTable

namespace HashedJobs

variable {h : HashedJobs} {datable : Prop} {made : List String} {t : HashTable} {now : Moment} {u : JobUse}
  {id : String} {e : TableEntry}

/-- The table after a use of it. -/
def use (h : HashedJobs) (u : JobUse) (now : Moment) (t : HashTable) : HashTable :=
  match u with
  | .call c => ((c.ask h.inTable .own).on (t, now)).2.1
  | .dropExpired => t.prune now

theorem use_prune (h : HashedJobs) (u : JobUse) (now : Moment) (t : HashTable) :
    h.use u now t = h.use u now (t.prune now) := by
  cases u with
  | call c => exact congrArg (fun x => x.2.1) (HashTable.Prunes.ask h c t now).symm
  | dropExpired => exact (HashTable.prune_of_live (HashTable.live_prune now t)).symm

/-- Jobs that were made are in the table, each once, and their fields tell a status and when they ended. -/
structure Sound (h : HashedJobs) (datable : Prop) (made : List String) (t : HashTable) : Prop where
  unlike : (t.map Prod.fst).Nodup
  jobs : ∀ id e, Keyed.find? t (h.key id) = some e → id ∈ made ∧ Job.Told datable (Keyed.find? e.fields)

/-- What a use does with a table from which nothing expires: nothing, or it makes a job, or it writes fields of a job
    that there is. -/
theorem use_cases (live : t.Live now) (sound : h.Sound datable made t) (u : JobUse) :
    h.use u now t = t ∨
    (∃ id, u.made? = some id ∧ h.use u now t = h.noted id (Job.freshFields id now.time) now t) ∨
    ∃ id e fields, Keyed.find? t (h.key id) = some e ∧ Job.Amends (Keyed.find? e.fields) now.time fields ∧
      h.use u now t = h.noted id fields now t := by
  have after {c : JobCall String} {t' : HashTable} (left : ((c.ask h.inTable .own).on (t, now)).2 = (t', now)) :
      h.use (.call c) now t = t' := by
    rw [use, left]
  cases u with
  | dropExpired => exact .inl (HashTable.prune_of_live live)
  | call c =>
      cases c with
      | create id =>
          exact .inr (.inl ⟨id, rfl, after (ActionOf.state_of_bind_pure (create_on_live h id live) _)⟩)
      | find id => exact .inl (after (ActionOf.state_of_bind_pure (find?_on_live h id live) _))
      | cancelRequested id => exact .inl (after (ActionOf.state_of_bind_pure (cancelRequested_on_live h id live) _))
      | setStatus id status locator errorMessage =>
          cases found : Keyed.find? t (h.key id) with
          | none => exact .inl (after (ActionOf.state_of_bind_pure (setStatus_on_unknown found live _ _ _) _))
          | some e =>
              obtain ⟨-, current, named, -⟩ := sound.jobs id e found
              have ran : (h.inTable.setStatus id status locator errorMessage).on (t, now) = _ :=
                setStatus_on_known found live named
              by_cases apply : current.transitionTo status = .apply
              · rw [if_pos apply] at ran
                exact .inr (.inr ⟨id, e, _, found, .status locator errorMessage named apply,
                  after (ActionOf.state_of_bind_pure ran _)⟩)
              · rw [if_neg apply] at ran
                exact .inl (after (ActionOf.state_of_bind_pure ran _))
      | setProgress id rows batches =>
          cases found : Keyed.find? t (h.key id) with
          | none => exact .inl (after (ActionOf.state_of_bind_pure (setProgress_on_unknown found live _ _) _))
          | some e =>
              have ran := setProgress_on_known found rows.toNat batches.toNat live
              exact .inr (.inr ⟨id, e, _, found, .progress _ _, after (ActionOf.state_of_bind_pure ran _)⟩)
      | requestCancel id =>
          cases found : Keyed.find? t (h.key id) with
          | none => exact .inl (after (ActionOf.state_of_bind_pure (requestCancel_on_unknown found live) _))
          | some e =>
              have ran := requestCancel_on_known found live
              exact .inr (.inr ⟨id, e, _, found, .cancel, after (ActionOf.state_of_bind_pure ran _)⟩)

theorem looked (h : HashedJobs) (id : String) (t : HashTable) (now : Moment) :
    (h.inTable.find? id).on (t, now) =
      (.ok (Job.ofFields? id (h.fieldsOf id (t.prune now)) now.time), t.prune now, now) := by
  have prunes : HashTable.Prunes (h.inTable.find? id) := HashTable.Prunes.timed fun _ _ same => by cases same
  rw [← prunes, find?_on_live h id (HashTable.live_prune now t)]

/-- What is shown of a job is read from its fields, which have not expired. -/
theorem read_of_shown {job : Job} (shown : ((h.inTable.find? id).on (t, now)).1 = .ok (some job)) :
    ∃ e, Keyed.find? (t.prune now) (h.key id) = some e ∧ Job.ReadFrom (Keyed.find? e.fields) id job := by
  rw [looked] at shown
  have read := Except.ok.inj shown
  rw [fieldsOf] at read
  cases found : Keyed.find? (t.prune now) (h.key id) with
  | none =>
      rw [found] at read
      cases read
  | some e =>
      rw [found] at read
      exact ⟨e, rfl, Job.readFrom_of_ofFields? read⟩

namespace Sound

theorem empty (h : HashedJobs) (datable : Prop) : h.Sound datable [] [] :=
  ⟨List.nodup_nil, fun _ _ found => by cases found⟩

theorem prune (sound : h.Sound datable made t) (now : Moment) : h.Sound datable made (t.prune now) where
  unlike := sound.unlike.sublist (List.filter_sublist.map _)
  jobs id e found := sound.jobs id e (HashTable.find?_of_prune sound.unlike found)

theorem noted (sound : h.Sound datable made t) {more : List String} (subset : made ⊆ more) (inside : id ∈ more)
    {fields : Fields} (told : Job.Told datable (overwritten (Keyed.find? (h.fieldsOf id t)) fields)) (now : Moment) :
    h.Sound datable more (h.noted id fields now t) where
  unlike := HashTable.unlike_noted sound.unlike h id fields now
  jobs other e found := by
    rw [find?_noted] at found
    split at found
    · rename_i here
      cases found
      rw [h.key_injective here]
      refine ⟨inside, ?_⟩
      rwa [Keyed.find?_insertAll_eq]
    · exact ⟨subset (sound.jobs other e found).1, (sound.jobs other e found).2⟩

/-- A job whose fields have not expired is shown. -/
theorem exists_shown (sound : h.Sound datable made t) (found : Keyed.find? (t.prune now) (h.key id) = some e) :
    ∃ j, ((h.inTable.find? id).on (t, now)).1 = .ok (some j) ∧ Job.ReadFrom (Keyed.find? e.fields) id j := by
  obtain ⟨j, read⟩ := ((sound.prune now).jobs id e found).2.exists_ofFields? id now.time
  refine ⟨j, ?_, Job.readFrom_of_ofFields? read⟩
  rw [looked, fieldsOf, found, Option.map_some, Option.getD_some, read]

theorem use (sound : h.Sound datable made t) (distinct : (made ++ u.made?.toList).Nodup)
    (year : datable → 0 ≤ now.time.date.year ∧ now.time.date.year ≤ 9999) :
    h.Sound datable (made ++ u.made?.toList) (h.use u now t) := by
  have pruned := sound.prune now
  have subset := List.subset_append_left made u.made?.toList
  rw [use_prune]
  rcases use_cases (HashTable.live_prune now t) pruned u with
    same | ⟨id, makes, wrote⟩ | ⟨id, e, fields, found, amends, wrote⟩
  · rw [same]
    exact ⟨pruned.unlike, fun id e found => ⟨subset (pruned.jobs id e found).1, (pruned.jobs id e found).2⟩⟩
  · rw [makes, Option.toList_some] at distinct
    rw [wrote, makes, Option.toList_some]
    refine pruned.noted (List.subset_append_left made [id]) (List.mem_append_right _ List.mem_cons_self) ?_ now
    have absent : Keyed.find? (t.prune now) (h.key id) = none := by
      rw [Option.eq_none_iff_forall_ne_some]
      intro e found
      exact (List.nodup_append.mp distinct).2.2 id (pruned.jobs id e found).1 id List.mem_cons_self rfl
    rw [fieldsOf, absent]
    exact Job.Told.fresh datable id now.time
  · obtain ⟨inside, told⟩ := pruned.jobs id e found
    rw [wrote]
    refine pruned.noted subset (subset inside) ?_ now
    rw [fieldsOf, found]
    exact told.amended amends year

/-- A job that is shown after a use, and was not made by it, was shown before. -/
theorem use_back {now' : Moment} {k : Job} (sound : h.Sound datable made t)
    (after : h.Sound datable (made ++ u.made?.toList) (h.use u now t)) (unmade : u.made? ≠ some id)
    (shown : ((h.inTable.find? id).on (h.use u now t, now')).1 = .ok (some k)) :
    ∃ j, ((h.inTable.find? id).on (t, now)).1 = .ok (some j) ∧ j.Advances k := by
  obtain ⟨e', live, read⟩ := read_of_shown shown
  have found := HashTable.find?_of_prune after.unlike live
  rw [use_prune] at found
  have stays (e : TableEntry) (same : e.fields = e'.fields) (there : Keyed.find? (t.prune now) (h.key id) = some e) :
      ∃ j, ((h.inTable.find? id).on (t, now)).1 = .ok (some j) ∧ j.Advances k := by
    obtain ⟨j, shown, before⟩ := sound.exists_shown there
    exact ⟨j, shown, before.same (same ▸ read)⟩
  rcases use_cases (HashTable.live_prune now t) (sound.prune now) u with
    same | ⟨other, makes, wrote⟩ | ⟨other, e, fields, there, amends, wrote⟩
  · rw [same] at found
    exact stays e' rfl found
  · have apart : h.key id ≠ h.key other := fun eq => unmade ((h.key_injective eq).symm ▸ makes)
    rw [wrote, find?_noted, if_neg apart] at found
    exact stays e' rfl found
  · rw [wrote, find?_noted] at found
    split at found
    · rename_i here
      obtain rfl := h.key_injective here
      cases found
      rw [fieldsOf, there, Option.map_some, Option.getD_some, Keyed.find?_insertAll_eq] at read
      obtain ⟨j, shown, before⟩ := sound.exists_shown there
      exact ⟨j, shown, before.amended amends read⟩
    · exact stays e' rfl found

theorem setStatus_same {j : Job} (sound : h.Sound datable made t)
    (shown : ((h.inTable.find? id).on (t, now)).1 = .ok (some j)) (locator errorMessage : Option String) :
    (h.inTable.setStatus id j.status locator errorMessage).on (t, now) =
      (.ok (), ((h.inTable.find? id).on (t, now)).2) := by
  obtain ⟨e, found, read⟩ := read_of_shown shown
  obtain ⟨-, current, named, -⟩ := (sound.prune now).jobs id e found
  have known := read.status
  rw [named, Option.bind_some, JobStatus.ofName?_name] at known
  cases known
  have prunes : HashTable.Prunes (h.inTable.setStatus id j.status locator errorMessage) :=
    HashTable.Prunes.timed fun _ _ same => by cases same
  rw [← prunes, setStatus_on_known found (HashTable.live_prune now t) named, JobStatus.transitionTo, if_pos rfl, looked]
  rfl

end Sound

end HashedJobs

/-! ## Either store -/

/-- A place for jobs: memory, or a table of hashes. -/
inductive JobShelf where
  | memory (limits : JobLimits)
  | table (h : HashedJobs)

namespace JobShelf

def State : JobShelf → Type
  | memory _ => MemoryJobs
  | table _ => HashTable

def empty : (shelf : JobShelf) → shelf.State
  | memory _ => .empty
  | table _ => []

def store : (shelf : JobShelf) → JobStore (shelf.State × Moment)
  | memory limits => MemoryJobs.store limits
  | table h => h.inTable

def use : (shelf : JobShelf) → JobUse → Moment → shelf.State → shelf.State
  | memory limits => MemoryJobs.use limits
  | table h => h.use

/-- What there is after uses one after another, each at its moment. -/
def after (shelf : JobShelf) (uses : List (JobUse × Moment)) : shelf.State :=
  uses.foldl (fun s use => shelf.use use.1 use.2 s) shelf.empty

/-- A moment that can be noted: in a table it is written as a text, which is only read in years of four digits. -/
def Notes : JobShelf → Moment → Prop
  | memory _, _ => True
  | table _, now => 0 ≤ now.time.date.year ∧ now.time.date.year ≤ 9999

instance : (shelf : JobShelf) → (now : Moment) → Decidable (shelf.Notes now)
  | memory _, _ => inferInstanceAs (Decidable True)
  | table _, now => inferInstanceAs (Decidable (0 ≤ now.time.date.year ∧ now.time.date.year ≤ 9999))

/-- Whoever looks up an id at a moment is shown a job. -/
def Shows (shelf : JobShelf) (s : shelf.State) (now : Moment) (id : String) (j : Job) : Prop :=
  ((shelf.store.find? id).on (s, now)).1 = .ok (some j)

/-- Jobs that were made are there, each once, and those that have ended tell when, if all moments can be noted. -/
def Sound : (shelf : JobShelf) → Prop → List String → shelf.State → Prop
  | memory limits, _ => MemoryJobs.Sound limits
  | table h, datable => h.Sound datable

variable {shelf : JobShelf} {datable : Prop} {made : List String} {s : shelf.State} {now now' : Moment} {u : JobUse}
  {id : String} {j k : Job} {uses earlier later : List (JobUse × Moment)}

namespace Sound

theorem use (sound : shelf.Sound datable made s) (distinct : (made ++ u.made?.toList).Nodup)
    (notes : datable → shelf.Notes now) : shelf.Sound datable (made ++ u.made?.toList) (shelf.use u now s) := by
  cases shelf with
  | memory limits => exact MemoryJobs.Sound.use sound u now
  | table h => exact HashedJobs.Sound.use sound distinct notes

/-- What is shown after a use is further on than what was shown before, unless it was made just then. -/
theorem use_back (sound : shelf.Sound datable made s)
    (after : shelf.Sound datable (made ++ u.made?.toList) (shelf.use u now s)) (unmade : u.made? ≠ some id)
    (shown : shelf.Shows (shelf.use u now s) now' id k) :
    ∃ j, shelf.Shows s now id j ∧ j.Advances k := by
  cases shelf with
  | memory limits =>
      have found := MemoryJobs.find?_of_evictFirst after.unlike (Except.ok.inj shown)
      obtain ⟨j, there, moves⟩ := MemoryJobs.Sound.use_back sound unmade found
      exact ⟨j, congrArg Except.ok there, moves⟩
  | table h => exact HashedJobs.Sound.use_back sound after unmade shown

theorem shown (sound : shelf.Sound datable made s) (shown : shelf.Shows s now id j) :
    id ∈ made ∧ (datable → j.Dated) := by
  cases shelf with
  | memory limits =>
      have found := MemoryJobs.find?_of_evictFirst sound.unlike (Except.ok.inj shown)
      exact (MemoryJobs.Sound.found sound found).imp_right fun dated _ => dated
  | table h =>
      obtain ⟨e, found, read⟩ := HashedJobs.read_of_shown shown
      obtain ⟨inside, told⟩ := (HashedJobs.Sound.prune sound now).jobs id e found
      exact ⟨inside, read.dated told⟩

/-- At two moments the same is shown, but for the time at which it was made if that cannot be read. -/
theorem shown_twice (sound : shelf.Sound datable made s) (first : shelf.Shows s now id j)
    (second : shelf.Shows s now' id k) : j.Advances k := by
  cases shelf with
  | memory limits =>
      have here := MemoryJobs.find?_of_evictFirst sound.unlike (Except.ok.inj first)
      have there := MemoryJobs.find?_of_evictFirst sound.unlike (Except.ok.inj second)
      rw [here] at there
      cases there
      exact .refl j
  | table h =>
      obtain ⟨e, found, read⟩ := HashedJobs.read_of_shown first
      obtain ⟨e', found', read'⟩ := HashedJobs.read_of_shown second
      have here := HashTable.find?_of_prune sound.unlike found
      have there := HashTable.find?_of_prune sound.unlike found'
      rw [here] at there
      cases there
      exact read.same read'

theorem setStatus_same (sound : shelf.Sound datable made s) (shown : shelf.Shows s now id j)
    (locator errorMessage : Option String) :
    (shelf.store.setStatus id j.status locator errorMessage).on (s, now) =
      (.ok (), ((shelf.store.find? id).on (s, now)).2) := by
  cases shelf with
  | memory limits => exact MemoryJobs.Sound.setStatus_same sound (Except.ok.inj shown) locator errorMessage
  | table h => exact HashedJobs.Sound.setStatus_same sound shown locator errorMessage

end Sound

theorem after_append (shelf : JobShelf) (uses : List (JobUse × Moment)) (u : JobUse) (now : Moment) :
    shelf.after (uses ++ [(u, now)]) = shelf.use u now (shelf.after uses) := by
  rw [after, List.foldl_append]
  rfl

theorem sound_after (distinct : (JobUse.madeBy uses).Nodup) (notes : datable → ∀ use ∈ uses, shelf.Notes use.2) :
    shelf.Sound datable (JobUse.madeBy uses) (shelf.after uses) := by
  induction uses using List.reverseRecOn with
  | nil =>
      cases shelf with
      | memory limits => exact MemoryJobs.Sound.empty limits
      | table h => exact HashedJobs.Sound.empty h datable
  | append_singleton uses last ih =>
      obtain ⟨u, now⟩ := last
      rw [JobUse.madeBy_append] at distinct ⊢
      rw [after_append]
      have sound := ih (List.nodup_append.mp distinct).1 fun all use inside =>
        notes all use (List.mem_append_left _ inside)
      exact sound.use distinct fun all => notes all (u, now) (List.mem_append_right _ List.mem_cons_self)

/-- What is shown after more uses is further on than what is shown of the job before them. -/
theorem advances_after (distinct : (JobUse.madeBy (earlier ++ later)).Nodup) (there : id ∈ JobUse.madeBy earlier)
    (first : shelf.Shows (shelf.after earlier) now id j)
    (second : shelf.Shows (shelf.after (earlier ++ later)) now' id k) : j.Advances k := by
  induction later using List.reverseRecOn generalizing now' k with
  | nil =>
      rw [List.append_nil] at distinct second
      have sound : shelf.Sound False _ _ := sound_after distinct False.elim
      exact sound.shown_twice first second
  | append_singleton later last ih =>
      obtain ⟨u, at_⟩ := last
      rw [← List.append_assoc] at distinct second
      -- That times can be read back is only of use for when a job ended.
      have sound_ : shelf.Sound False _ _ := sound_after distinct False.elim
      rw [JobUse.madeBy_append] at distinct sound_
      rw [after_append] at second sound_
      have before := (List.nodup_append.mp distinct).1
      have unmade : u.made? ≠ some id := by
        intro makes
        rw [makes, Option.toList_some] at distinct
        have early : id ∈ JobUse.madeBy (earlier ++ later) := by
          rw [JobUse.madeBy, List.filterMap_append]
          exact List.mem_append_left _ there
        exact (List.nodup_append.mp distinct).2.2 id early id List.mem_cons_self rfl
      obtain ⟨middle, shown, moves⟩ := (sound_after before False.elim).use_back sound_ unmade second
      exact (ih before shown).trans moves

end JobShelf

/-- A job that stays where it is kept moves forward, in memory or in a table of hashes, whatever is done between two
    moments at which it is looked up. To wish for the status that it has is to look at it, whatever else is to be noted.
    It tells when it ended just if it has, provided that the moments up to then can be noted. -/
theorem jobs_move_forward (shelf : JobShelf) (earlier later : List (JobUse × Moment))
    (distinct : (JobUse.madeBy (earlier ++ later)).Nodup) (id : String) (now : Moment) (j : Job)
    (shown : shelf.Shows (shelf.after earlier) now id j) :
    ((∀ use ∈ earlier, shelf.Notes use.2) → j.completedAt.isSome = j.status.isTerminal) ∧
      (∀ locator errorMessage, (shelf.store.setStatus id j.status locator errorMessage).on (shelf.after earlier, now) =
        (.ok (), ((shelf.store.find? id).on (shelf.after earlier, now)).2)) ∧
      ∀ now' k, shelf.Shows (shelf.after (earlier ++ later)) now' id k → j.Advances k := by
  have early : (JobUse.madeBy earlier).Nodup :=
    distinct.sublist (List.Sublist.filterMap _ (List.sublist_append_left earlier later))
  have sound : shelf.Sound (∀ use ∈ earlier, shelf.Notes use.2) _ _ := JobShelf.sound_after early fun all => all
  obtain ⟨there, dated⟩ := sound.shown shown
  refine ⟨dated, sound.setStatus_same shown, ?_⟩
  intro now' k shown'
  exact JobShelf.advances_after distinct there shown shown'

/-- Calls that end a job, and late calls about it. -/
def lateCalls : List (JobUse × Moment) × List (JobUse × Moment) :=
  ([(.call (.create "a"), ⟨0, leapDay⟩),
      (.call (.setStatus "a" .completed (some "memory://a.xlsx") none), ⟨1, leapDay⟩)],
    [(.call (.setStatus "a" .failed none (some "late")), ⟨2, leapDay⟩), (.call (.setProgress "a" 3 1), ⟨3, leapDay⟩)])

theorem jobs_move_forward_late :
    let j := { Job.fresh "a" leapDay with
      status := .completed, locator := some "memory://a.xlsx", completedAt := some leapDay }
    let k := { j with rows := 3, batches := 1 }
    let shelf := JobShelf.table {}
    shelf.Shows (shelf.after lateCalls.1) ⟨2, leapDay⟩ "a" j ∧
      shelf.Shows (shelf.after (lateCalls.1 ++ lateCalls.2)) ⟨4, leapDay⟩ "a" k ∧
      (j.completedAt.isSome = j.status.isTerminal ∧ j.Advances k) := by
  intro j k shelf
  have first : shelf.Shows (shelf.after lateCalls.1) ⟨2, leapDay⟩ "a" j := by
    unfold JobShelf.Shows
    decide +kernel
  have second : shelf.Shows (shelf.after (lateCalls.1 ++ lateCalls.2)) ⟨4, leapDay⟩ "a" k := by
    unfold JobShelf.Shows
    decide +kernel
  obtain ⟨dated, -, forward⟩ :=
    jobs_move_forward shelf lateCalls.1 lateCalls.2 (by decide) "a" ⟨2, leapDay⟩ j first
  exact ⟨first, second, dated (by decide), forward _ _ second⟩

end SheetExport
