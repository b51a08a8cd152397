import SheetExport.Proofs.Export.Upkeep
import SheetExport.Proofs.Source.Resources

/-! # What an export lets go of

A source that logs what it is asked for tells how an export uses it: at most one stream is opened, it is read on for a
while, and then the source is closed once, whatever the export comes to. Of the workbook nothing is kept.
-/

namespace SheetExport

variable {α σ τ ω β : Type}

/-- What a source can be asked for. -/
inductive SourceCall where
  | stream
  | streamMatching (filter : Filter)
  | next
  | close

/-- What an export opens a stream with. -/
def SourceCall.opening : Option Filter → SourceCall
  | some filter => streamMatching filter
  | none => stream

/-- The source with a log of what it was asked for. -/
def Source.logged (source : Source σ ω α) : Source (σ × List SourceCall) ω α where
  name := source.name
  stream := source.stream.within (fun s => (s.1.1, s.2)) fun s t => ((s.1, t.1.2 ++ [.stream]), s.2)
  streamMatching filter :=
    (source.streamMatching filter).within (fun s => (s.1.1, s.2)) fun s t => ((s.1, t.1.2 ++ [.streamMatching filter]), s.2)
  next := fun s =>
    let (pull, t, w) := source.next (s.1.1, s.2)
    (pull, (t, s.1.2 ++ [.next]), w)
  close := fun s =>
    let ((), t, w) := source.close (s.1.1, s.2)
    ((), (t, s.1.2 ++ [.close]), w)

/-! ## Sources seen through others -/

/-- One source does what another one does, seen through a view of its state. -/
structure Source.Shows (view : τ → σ) (outer : Source τ ω α) (inner : Source σ ω α) : Prop where
  opening : ∀ filter t, (inner.opening filter).on (view t.1, t.2) =
    (((outer.opening filter).on t).1, view ((outer.opening filter).on t).2.1, ((outer.opening filter).on t).2.2)
  next : ∀ t, inner.next (view t.1, t.2) = ((outer.next t).1, view (outer.next t).2.1, (outer.next t).2.2)
  close : ∀ t, inner.close (view t.1, t.2) = ((outer.close t).1, view (outer.close t).2.1, (outer.close t).2.2)

theorem Source.logged_shows (source : Source σ ω α) : source.logged.Shows Prod.fst source where
  opening filter _ := by cases filter <;> rfl
  next _ := rfl
  close _ := rfl

namespace Run

section Views

variable [Gzip] {view : τ → σ}

def viewed (view : τ → σ) (r : Run τ ω) : Run σ ω := { r with source := view r.source }

/-- One step does what another one does, seen through a view of the source. -/
def Matches (view : τ → σ) (a : RunStep τ ω β) (b : RunStep σ ω β) : Prop :=
  ∀ r, b.on (r.viewed view) = ((a.on r).1, (a.on r).2.viewed view)

namespace Matches

protected theorem pure (x : β) : Matches view (pure x : RunStep τ ω β) (pure x) := fun _ => rfl

protected theorem throw (e : Halt) : Matches view (throw e : RunStep τ ω β) (throw e) := fun _ => rfl

protected theorem bind {γ : Type} {a : RunStep τ ω β} {b : RunStep σ ω β} {f : β → RunStep τ ω γ}
    {g : β → RunStep σ ω γ} (first : Matches view a b) (second : ∀ x, Matches view (f x) (g x)) :
    Matches view (a >>= f) (b >>= g) := by
  intro r
  rw [ActionOf.on_bind, ActionOf.on_bind, first r]
  cases ran : a.on r with
  | mk outcome r' =>
      cases outcome with
      | error e => rfl
      | ok x => exact second x r'

protected theorem get_bind {f : Run τ ω → RunStep τ ω β} {g : Run σ ω → RunStep σ ω β}
    (second : ∀ r, Matches view (f r) (g (r.viewed view))) : Matches view (get >>= f) (get >>= g) :=
  fun r => second r r

end Matches

theorem onWorkbook_matches (a : Action Workbook β) : Matches view (onWorkbook a : RunStep τ ω β) (onWorkbook a) :=
  fun _ => rfl

theorem onFormatted_matches (a : Action (Workbook × FormatMemo) β) :
    Matches view (onFormatted a : RunStep τ ω β) (onFormatted a) :=
  fun _ => rfl

theorem tell_matches (options : ExportOptions ω) (phase : Phase) :
    Matches view (tell options phase : RunStep τ ω Unit) (tell options phase) :=
  fun _ => rfl

theorem onSource_matches {a : Action (τ × ω) β} {b : Action (σ × ω) β}
    (same : ∀ t, b.on (view t.1, t.2) = ((a.on t).1, view (a.on t).2.1, (a.on t).2.2)) :
    Matches view (onSource a) (onSource b) := by
  intro r
  rw [onSource_on (same (r.source, r.world)), onSource_on (a := a) rfl]
  rfl

theorem writeEntity_matches (config : Config) (schema : Schema α) (a : α) :
    Matches view (writeEntity config schema a : RunStep τ ω Unit) (writeEntity config schema a) := by
  rw [writeEntity, writeEntity]
  refine .get_bind fun r => ?_
  cases schema.row a with
  | error b => exact .throw _
  | ok values =>
      dsimp only
      split
      · exact .bind (.throw _) fun _ => .bind (onFormatted_matches _) fun _ => fun _ => rfl
      · exact .bind (onFormatted_matches _) fun _ => fun _ => rfl

theorem endBatch_matches (options : ExportOptions ω) :
    Matches view (endBatch options : RunStep τ ω Unit) (endBatch options) := by
  refine .bind (onWorkbook_matches _) fun _ => .bind (fun _ => rfl) fun _ => .bind (tell_matches options _) fun _ =>
    .get_bind fun r => ?_
  dsimp only [viewed]
  split
  · exact .bind (tell_matches options _) fun _ => .throw _
  · exact .pure _

variable {outer : Source τ ω α} {inner : Source σ ω α} (shows : outer.Shows view inner) (options : ExportOptions ω)
  (config : Config) (schema : Schema α)
include shows

theorem writeEntities_matches (n : Nat) :
    Matches view (writeEntities config options schema outer n) (writeEntities config options schema inner n) := by
  induction n with
  | zero => exact .pure _
  | succ n ih =>
      have reads : Matches view (readSource outer.next) (readSource inner.next) :=
        onSource_matches fun t => by
        simp only [ActionOf.on_of, shows.next t]
        rfl
      refine .bind reads fun pull => ?_
      cases pull with
      | finished => exact .pure _
      | fault e => exact .get_bind fun _ => .throw _
      | entity a =>
          refine .bind (writeEntity_matches config schema a) fun _ => .get_bind fun r => ?_
          dsimp only [viewed]
          split
          · exact .bind (endBatch_matches options) fun _ => ih
          · exact ih

theorem exportRows_matches [Zip] (filter : Option Filter) (now : Timestamp) :
    Matches view (exportRows config options schema outer filter now)
      (exportRows config options schema inner filter now) := by
  rw [exportRows_eq, exportRows_eq]
  exact .bind (tell_matches options _) fun _ => .bind (onWorkbook_matches _) fun _ =>
    .bind (onSource_matches (shows.opening filter)) fun _ =>
    .bind (writeEntities_matches shows options config schema _) fun _ => .bind (tell_matches options _) fun _ =>
    .bind (fun _ => rfl) fun _ => tell_matches options _

omit options config schema in
theorem finish_viewed (r : Run τ ω) : (r.viewed view).finish inner = (r.finish outer).viewed view := by
  rw [finish, show inner.close ((r.viewed view).source, (r.viewed view).world) = _ from shows.close (r.source, r.world)]
  rfl

end Views

end Run

/-- An export of a source that shows another one is an export of the other one. -/
theorem exportTo_shows [Gzip] [Zip] {view : τ → σ} {outer : Source τ ω α} {inner : Source σ ω α}
    (shows : outer.Shows view inner) (config : Config) (options : ExportOptions ω) (schema : Schema α)
    (filter : Option Filter) (now : Timestamp) (t : τ) (world : ω) (output : Sink) (spillDisk : Except IoFault Disk) :
    exportTo config options schema inner filter now (view t) world output spillDisk =
      ((exportTo config options schema outer filter now t world output spillDisk).1,
        (exportTo config options schema outer filter now t world output spillDisk).2.viewed view) := by
  have same := Run.exportRows_matches shows options config schema filter now (Run.start config t world output spillDisk)
  rw [exportTo, show Run.start config (view t) world output spillDisk =
    (Run.start config t world output spillDisk).viewed view from rfl, same]
  exact congrArg _ (Run.finish_viewed shows _)

/-! ## Calls of an export -/

/-- No stream was opened, or one, and it was read on. -/
def SourceCall.OneStream (filter : Option Filter) (calls : List SourceCall) : Prop :=
  calls = [] ∨ ∃ n, calls = opening filter :: List.replicate n .next

namespace Run

/-- Up to its end an export opens at most one stream and reads it. -/
theorem exportRows_calls [Gzip] [Zip] (config : Config) (options : ExportOptions ω) (schema : Schema α)
    (source : Source σ ω α) (filter : Option Filter) (now : Timestamp) (r : Run (σ × List SourceCall) ω) :
    ∃ calls, ((exportRows config options schema source.logged filter now).on r).2.source.2 = r.source.2 ++ calls ∧
      SourceCall.OneStream filter calls := by
  let Before (s : (σ × List SourceCall) × ω) : Prop := s.1.2 = r.source.2
  let Reading (s : (σ × List SourceCall) × ω) : Prop :=
    ∃ n, s.1.2 = r.source.2 ++ SourceCall.opening filter :: List.replicate n .next
  let Ended (s : (σ × List SourceCall) × ω) : Prop :=
    ∃ calls, s.1.2 = r.source.2 ++ calls ∧ SourceCall.OneStream filter calls
  have before_ended (s : Run (σ × List SourceCall) ω) (before : Around Before s) : Around Ended s :=
    ⟨[], by rw [List.append_nil]; exact before, .inl rfl⟩
  have reading_ended (s : Run (σ × List SourceCall) ω) (reading : Around Reading s) : Around Ended s := by
    obtain ⟨n, log⟩ := reading
    exact ⟨_, log, .inr ⟨n, rfl⟩⟩
  have opens (s : Run (σ × List SourceCall) ω) (before : Around Before s) :
      Around Reading ((onSource (source.logged.opening filter)).on s).2 := by
    refine ⟨0, ?_⟩
    have log : s.source.2 = r.source.2 := before
    cases filter with
    | none => exact congrArg (· ++ _) log
    | some filter => exact congrArg (· ++ _) log
  have reads (s : (σ × List SourceCall) × ω) (reading : Reading s) : Reading (source.logged.next s).2 := by
    obtain ⟨n, log⟩ := reading
    refine ⟨n + 1, ?_⟩
    rw [List.replicate_succ', ← List.cons_append, ← List.append_assoc, ← log]
    rfl
  have telling : options.Keeps Reading := fun _ _ _ reading => reading
  rw [exportRows_eq]
  refine ActionOf.Keeps.bind_to (Q := Around Ended) (tell_keeps (P := Before) (fun _ _ _ before => before) _) before_ended
    (fun _ => ActionOf.Keeps.bind_to (onWorkbook_keeps _) before_ended fun _ s before => ?_) r rfl
  refine reading_ended _ (ActionOf.Keeps.after (opens s before) fun _ => ?_)
  exact .bind (writeEntities_keeps reads telling config schema _) fun _ => conclude_keeps telling now

end Run

/-! ## Streams over feeds -/

theorem Feed.source_keeps [RegexEngine] (name : String) (feeds : Nat → Except ExportError (Feed ω α))
    (fields : Option (α → String → Option CellValue)) (first : OpenResources) :
    (Feed.source name feeds fields).Keeps fun s => first.Tracking s.1.resources where
  stream := openStream_keeps _
  streamMatching filter := by
    rw [Feed.source]
    dsimp only
    cases filter.compile with
    | error fault => exact .throw _
    | ok tests =>
        cases fields with
        | none => exact openStream_keeps _
        | some fields => exact openStream_keeps _
  next := nextOf_keeps

/-- Whatever an export comes to: it uses its source as if nobody kept a log, and the log tells that at most one stream
    was opened, that it was read on, and that the source was closed then, once. A source over feeds has no stream open
    any more, but for what was open before without being tracked. The sheet holds no row and has no spill. -/
theorem export_releases [RegexEngine] [Gzip] [Zip] (config : Config) (options : ExportOptions ω) (schema : Schema α)
    (source : Source σ ω α) (filter : Option Filter) (now : Timestamp) (own : σ) (log : List SourceCall) (world : ω)
    (output : Sink) (spillDisk : Except IoFault Disk) :
    let run := exportTo config options schema source.logged filter now (own, log) world output spillDisk
    exportTo config options schema source filter now own world output spillDisk = (run.1, run.2.viewed Prod.fst) ∧
      (∃ calls, run.2.source.2 = log ++ calls ++ [.close] ∧ SourceCall.OneStream filter calls) ∧
      (∀ w, run.2.workbook.sheet = some w → w.spill = none ∧ w.resident = []) ∧
      ∀ name feeds fields state,
        let run := exportTo config options schema (Feed.source name feeds fields) filter now state world output spillDisk
        run.2.source.openStreams = 0 ∧ ∀ handle, run.2.source.resources.isOpen handle = true →
          state.resources.isOpen handle = true ∧ handle ∉ state.resources.tracked := by
  intro run
  refine ⟨exportTo_shows source.logged_shows config options schema filter now (own, log) world output spillDisk, ?_, ?_,
    ?_⟩
  · obtain ⟨calls, logged, oneStream⟩ := Run.exportRows_calls config options schema source filter now
      (.start config (own, log) world output spillDisk)
    exact ⟨calls, congrArg (fun log => log ++ [SourceCall.close]) logged, oneStream⟩
  · intro w sheet
    obtain ⟨v, -, rfl⟩ := Option.map_eq_some_iff.mp (show (Workbook.dispose _).sheet = some w from sheet)
    exact ⟨rfl, rfl⟩
  · intro name feeds fields state feedRun
    obtain ⟨outcome, r, exported, tracking⟩ := exportTo_keeps (Feed.source_keeps name feeds fields state.resources)
      (fun _ _ _ tracking => tracking) config schema filter now state world output spillDisk (.refl state.resources)
    rw [show feedRun = _ from exported]
    exact ⟨rfl, tracking.releaseAll⟩

end SheetExport
