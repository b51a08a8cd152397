import SheetExport.Proofs.Source.Filtering

/-! # How many streams of a source are open

A source counts the streams that were opened and neither read to their end nor closed with it since, whatever is done
with it in between. To drop a stream that was read in part changes nothing about that; a stream that has ended is not
counted, and not asked for anything again.
-/

namespace SheetExport

variable {ω α : Type}

/-- What may be done with a source, and with the stream that was opened last. -/
inductive StreamUse where
  | stream
  | streamMatching (filter : Filter)
  | next
  | drop
  | close

/-- What is seen of it. -/
inductive StreamNote (α : Type) where
  | opened
  | refused (e : ExportError)
  | answered (pull : Pull α)
  | dropped
  | closed

namespace StreamNote

def isClosed : StreamNote α → Bool
  | closed => true
  | _ => false

/-- The stream that is read when these notes begin is read to its end. -/
def readToEnd : List (StreamNote α) → Bool
  | .answered .finished :: _ => true
  | .answered _ :: later => readToEnd later
  | _ => false

/-- How many streams were opened, not read to their end, and not closed since. -/
def unfinished : List (StreamNote α) → Nat
  | [] => 0
  | .opened :: later => unfinished later + if later.any isClosed || readToEnd later then 0 else 1
  | _ :: later => unfinished later

theorem readToEnd_answered {pull : Pull α} (more : pull ≠ .finished) (later : List (StreamNote α)) :
    readToEnd (.answered pull :: later) = readToEnd later := by
  cases pull with
  | finished => exact absurd rfl more
  | entity a => rfl
  | fault e => rfl

end StreamNote

/-- Opens a stream, or fails to. Whoever does that has dropped the stream before. -/
def StreamUse.noted (open_ : Action (FeedState ω α × ω) Unit) (s : FeedState ω α × ω) :
    StreamNote α × (FeedState ω α × ω) :=
  match open_.on ({ s.1 with current := none }, s.2) with
  | (.ok (), t) => (.opened, t)
  | (.error e, t) => (.refused e, t)

namespace Source

def use (source : Source (FeedState ω α) ω α) :
    StreamUse → FeedState ω α × ω → StreamNote α × (FeedState ω α × ω)
  | .stream, s => StreamUse.noted source.stream s
  | .streamMatching filter, s => StreamUse.noted (source.streamMatching filter) s
  | .next, s => (.answered (source.next s).1, (source.next s).2)
  | .drop, s => (.dropped, { s.1 with current := none }, s.2)
  | .close, s => (.closed, (source.close s).2)

/-- What is seen of many uses, one after another, and the state that they leave. -/
def useAll (source : Source (FeedState ω α) ω α) :
    List StreamUse → FeedState ω α × ω → List (StreamNote α) × (FeedState ω α × ω)
  | [], s => ([], s)
  | u :: uses, s =>
      let (note, s) := source.use u s
      let (notes, s) := source.useAll uses s
      (note :: notes, s)

end Source

namespace FeedState

/-- The stream that is read, if there is one, is open. -/
structure Kept (s : FeedState ω α) : Prop where
  distinct : s.resources.Distinct
  reading : ∀ t ∈ s.current, s.resources.isOpen t.handle = true ∧ t.handle ∈ s.resources.tracked

theorem Kept.initial : (initial : FeedState ω α).Kept := ⟨.empty, fun _ inside => absurd inside (Option.not_mem_none _)⟩

/-- Without a stream that is read, only the handles matter. -/
theorem Kept.unread {s : FeedState ω α} (distinct : s.resources.Distinct) (unread : s.current = none) : s.Kept :=
  ⟨distinct, fun _ inside => absurd (unread ▸ inside) (Option.not_mem_none _)⟩

/-- How a use changes what is open and whether a stream is read, by what is seen of it. -/
inductive Counts (s t : FeedState ω α) : StreamNote α → Prop
  | opened (count : t.openStreams = s.openStreams + 1) (reads : t.current.isSome = true) : Counts s t .opened
  | refused {e : ExportError} (count : t.openStreams = s.openStreams) (unread : t.current.isSome = false) :
      Counts s t (.refused e)
  | finished (count : t.openStreams + (if s.current.isSome then 1 else 0) = s.openStreams)
      (unread : t.current.isSome = false) : Counts s t (.answered .finished)
  | answered {pull : Pull α} (more : pull ≠ .finished) (count : t.openStreams = s.openStreams)
      (reads : s.current.isSome = true) (readsOn : t.current.isSome = true) : Counts s t (.answered pull)
  | dropped (count : t.openStreams = s.openStreams) (unread : t.current.isSome = false) : Counts s t .dropped
  | closed (count : t.openStreams = 0) (unread : t.current.isSome = false) : Counts s t .closed

end FeedState

namespace Feed

variable {name : String} {feeds : Nat → Except ExportError (Feed ω α)} {wanted : α → Bool}
  {fields : Option (α → String → Option CellValue)} {s : FeedState ω α}

/-! ## One use -/

theorem opens_streamMatching [RegexEngine] (filter : Filter) : Opens ((source name feeds fields).streamMatching filter) := by
  cases compiled : filter.compile with
  | error fault =>
      intro s w
      refine .inr ⟨fault.toError, s, ?_, rfl, rfl⟩
      simp only [source, compiled]
      rfl
  | ok tests =>
      simp only [source, compiled]
      cases fields with
      | none => exact opens_openStream
      | some fields => exact opens_openStream

theorem noted_counts {open_ : Action (FeedState ω α × ω) Unit} (opens : Opens open_) (kept : s.Kept) (w : ω) :
    (StreamUse.noted open_ (s, w)).2.1.Kept ∧
      s.Counts (StreamUse.noted open_ (s, w)).2.1 (StreamUse.noted open_ (s, w)).1 := by
  rw [StreamUse.noted]
  rcases opens { s with current := none } w with ⟨t, name, stream, done, resources, current, handle⟩ |
    ⟨e, t, failed, resources, current⟩
  · simp only [done]
    refine ⟨⟨resources ▸ kept.distinct.track name none, fun u inside => ?_⟩, .opened ?_ (by rw [current]; rfl)⟩
    · obtain rfl : stream = u := Option.some.inj (current.symm.trans inside)
      rw [resources, handle, OpenResources.isOpen_track, beq_self_eq_true, Bool.or_true, OpenResources.tracked_track]
      exact ⟨rfl, List.mem_append_right _ List.mem_cons_self⟩
    · rw [FeedState.openStreams, resources]
      exact OpenResources.openCount_track s.resources name none
  · simp only [failed]
    refine ⟨.unread (resources ▸ kept.distinct) current, .refused ?_ (by rw [current]; rfl)⟩
    rw [FeedState.openStreams, resources]
    rfl

theorem nextOf_counts (kept : s.Kept) (w : ω) :
    (nextOf (s, w)).2.1.Kept ∧ s.Counts (nextOf (s, w)).2.1 (.answered (nextOf (s, w)).1) := by
  rcases nextOf_cases s w with ⟨closed, ended⟩ | ⟨t, current, isOpen, ⟨v, ended⟩ | ⟨pull, position, v, more, read⟩⟩
  · have unread : s.current.isSome = false := by
      cases current : s.current with
      | none => rfl
      | some t => exact absurd (kept.reading t current).1 (Bool.eq_false_iff.mp (closed t current))
    rw [ended]
    exact ⟨.unread kept.distinct rfl, .finished (by rw [unread]; rfl) rfl⟩
  · have reads : s.current.isSome = true := Option.isSome_of_mem current
    rw [ended]
    refine ⟨.unread (kept.distinct.release _) rfl, .finished ?_ rfl⟩
    rw [reads]
    exact OpenResources.openCount_release kept.distinct (kept.reading t current).2 isOpen
  · rw [read]
    refine ⟨⟨kept.distinct, fun u inside => ?_⟩, .answered more rfl (Option.isSome_of_mem current) rfl⟩
    cases inside
    exact kept.reading t current

theorem use_counts [RegexEngine] (name : String) (feeds : Nat → Except ExportError (Feed ω α))
    (fields : Option (α → String → Option CellValue)) (kept : s.Kept) (u : StreamUse) (w : ω) :
    ((source name feeds fields).use u (s, w)).2.1.Kept ∧
      s.Counts ((source name feeds fields).use u (s, w)).2.1 ((source name feeds fields).use u (s, w)).1 := by
  cases u with
  | stream => exact noted_counts opens_openStream kept w
  | streamMatching filter => exact noted_counts (opens_streamMatching filter) kept w
  | next => exact nextOf_counts kept w
  | drop => exact ⟨.unread kept.distinct rfl, .dropped rfl rfl⟩
  | close => exact ⟨.unread (.releaseAll _) rfl, .closed (OpenResources.openCount_releaseAll _) rfl⟩

/-! ## Many uses -/

open StreamNote in
/-- The streams that are open after some notes: those from before, unless they were closed, without the one that was
    read if it was read to its end, and those that were opened meanwhile and are unfinished. -/
def Accounts (s : FeedState ω α) (notes : List (StreamNote α)) (count : Nat) : Prop :=
  count + (if s.current.isSome && readToEnd notes && !notes.any isClosed then 1 else 0) =
    (if notes.any isClosed then 0 else s.openStreams) + unfinished notes

open StreamNote in
theorem accounts_cons {t : FeedState ω α} {note : StreamNote α} {notes : List (StreamNote α)} {count : Nat}
    (counts : s.Counts t note) (later : Accounts t notes count) : Accounts s (note :: notes) count := by
  rw [Accounts] at later ⊢
  rw [List.any_cons]
  -- Only a stream that is opened, or ends, moves the account; whether it counts depends on what comes later.
  cases counts with
  | opened counted reads =>
      rw [reads, counted] at later
      cases closed : notes.any isClosed <;> cases ended : readToEnd notes <;>
        simp [closed, ended, isClosed, readToEnd, unfinished] at later ⊢ <;> omega
  | refused counted unread =>
      rw [unread, counted] at later
      simpa [isClosed, readToEnd, unfinished] using later
  | finished counted unread =>
      rw [unread] at later
      cases closed : notes.any isClosed <;> cases reads : s.current.isSome <;>
        simp [closed, reads, isClosed, readToEnd, unfinished] at later counted ⊢ <;> omega
  | answered more counted reads readsOn =>
      rw [readsOn, counted] at later
      rw [readToEnd_answered more, reads]
      simpa [isClosed, unfinished] using later
  | dropped counted unread =>
      rw [unread, counted] at later
      simpa [isClosed, readToEnd, unfinished] using later
  | closed counted unread =>
      rw [unread, counted] at later
      simpa [isClosed, readToEnd, unfinished] using later

theorem useAll_accounts [RegexEngine] (name : String) (feeds : Nat → Except ExportError (Feed ω α))
    (fields : Option (α → String → Option CellValue)) (uses : List StreamUse) {s : FeedState ω α × ω}
    (kept : s.1.Kept) :
    Accounts s.1 ((source name feeds fields).useAll uses s).1
      ((source name feeds fields).useAll uses s).2.1.openStreams := by
  induction uses generalizing s with
  | nil => simp [Accounts, Source.useAll, StreamNote.readToEnd, StreamNote.unfinished]
  | cons u uses ih =>
      obtain ⟨keptOn, counts⟩ := use_counts name feeds fields kept u s.2
      exact accounts_cons counts (ih keptOn)

/-! ## What has ended -/

theorem current_of_finished {s t : FeedState ω α × ω} (ended : nextOf s = (.finished, t)) : t.1.current = none := by
  rcases nextOf_cases s.1 s.2 with ⟨-, last⟩ | ⟨_, -, -, ⟨_, last⟩ | ⟨_, _, _, more, read⟩⟩
  · cases ended.symm.trans last
    rfl
  · cases ended.symm.trans last
    rfl
  · exact absurd (congrArg Prod.fst (read.symm.trans ended)) more

theorem openStreams_of_refused {open_ : Action (FeedState ω α × ω) Unit} (opens : Opens open_) {s t : FeedState ω α × ω}
    {e : ExportError} (failed : open_.on s = (.error e, t)) : t.1.openStreams = s.1.openStreams := by
  rcases opens s.1 s.2 with ⟨u, _, _, done, -⟩ | ⟨_, u, refused, resources, -⟩
  · cases failed.symm.trans done
  · cases failed.symm.trans refused
    exact congrArg OpenResources.openCount resources

/-- A source counts as open the streams that were opened, neither read to their end nor closed since, whatever was done
    with it. Once a stream has ended, it stays so, and nothing is asked for or changed by asking it again. To fail to
    open a stream leaves the count as it was; to close the source makes it zero, and to close it once more changes
    nothing. -/
theorem source_counts_unfinished [RegexEngine] (name : String) (feeds : Nat → Except ExportError (Feed ω α))
    (fields : Option (α → String → Option CellValue)) (w : ω) :
    let tracked := source name feeds fields
    (∀ uses, let ran := tracked.useAll uses (.initial, w)
      ran.2.1.openStreams = StreamNote.unfinished ran.1) ∧
    (∀ s t, tracked.next s = (.finished, t) → ∀ n, tracked.answers n t = (List.replicate n .finished, t)) ∧
    (∀ s t e, tracked.stream.on s = (.error e, t) → t.1.openStreams = s.1.openStreams) ∧
    (∀ filter s t e, (tracked.streamMatching filter).on s = (.error e, t) → t.1.openStreams = s.1.openStreams) ∧
    ∀ s, (tracked.close s).2.1.openStreams = 0 ∧ tracked.close (tracked.close s).2 = tracked.close s := by
  intro tracked
  refine ⟨fun uses => ?_, fun s t ended n => ?_, fun s t e => openStreams_of_refused opens_openStream,
    fun filter s t e => openStreams_of_refused (opens_streamMatching filter), fun s => ⟨rfl, rfl⟩⟩
  · have accounts := useAll_accounts name feeds fields uses (s := (.initial, w)) FeedState.Kept.initial
    rw [Accounts] at accounts
    simpa [FeedState.initial, FeedState.openStreams, OpenResources.empty, OpenResources.openCount] using accounts
  · exact answers_ended rfl (current_of_finished ended) n t.2

/-- Three streams are opened, of which the first is read to its end; another one cannot be had. -/
theorem source_counts_unfinished_numbers :
    let gone := ExportError.dataSource none "gone" none
    let feeds : Nat → Except ExportError (Feed Unit Nat)
      | 0 => .ok (prepend #[.ok 7] nil)
      | 1 => .error gone
      | _ => .ok (endless id 0)
    let ran := (source "numbers" feeds none).useAll
      [.stream, .next, .next, .stream, .stream, .next, .drop, .stream] (.initial, ())
    ran.1 = [.opened, .answered (.entity 7), .answered .finished, .refused gone, .opened, .answered (.entity 0), .dropped,
        .opened] ∧
      ran.2.1.openStreams = 2 := by
  intro gone feeds ran
  exact ⟨rfl, (source_counts_unfinished "numbers" feeds none ()).1 _⟩

end Feed

end SheetExport
