import SheetExport.Proofs.Export.Failure

/-! # Which exports tell of their end

An export that comes to write its workbook and succeeds tells that it is completed, and one that is stopped after a
batch tells that it is cancelled. Whatever else breaks an export off is told to nobody: the last event is of a batch or
of the workbook, if not of the beginning.
-/

namespace SheetExport

/-- The phase that an export with this outcome is to end in. One that broke down has none. -/
def Phase.ofOutcome : Except Halt Unit → Option Phase
  | .ok () => some .completed
  | .error (.error .cancelled) => some .cancelled
  | .error (.error _) => some .failed
  | .error (.breakdown _) => none

/-- What is told ends with the phase of the outcome, and with no other one that is terminal before it. -/
def TellsEnd (outcome : Except Halt Unit) (events : List Progress) : Prop :=
  ∃ before last, events = before ++ [last] ∧ (∀ p ∈ before, p.phase.isTerminal = false) ∧
    Phase.ofOutcome outcome = some last.phase

theorem Phase.isTerminal_of_ofOutcome {outcome : Except Halt Unit} {phase : Phase}
    (ends : ofOutcome outcome = some phase) : phase.isTerminal = true := by
  match outcome with
  | .ok () => cases ends; rfl
  | .error (.breakdown _) => cases ends
  | .error (.error e) => cases e <;> cases ends <;> rfl

/-- Where no phase is terminal, no end is told of. -/
theorem not_tellsEnd {outcome : Except Halt Unit} {events : List Progress}
    (quiet : ∀ p ∈ events, p.phase.isTerminal = false) : ¬TellsEnd outcome events := by
  rintro ⟨before, last, rfl, -, ends⟩
  have terminal := Phase.isTerminal_of_ofOutcome ends
  rw [quiet last (List.mem_append_right _ List.mem_cons_self)] at terminal
  cases terminal

namespace Run

variable {α σ ω : Type} {config : Config} {schema : Schema α} {source : Source σ ω α} {options : ExportOptions ω}
  {batch n k : Nat} {s : σ × ω}

theorem GoesOn.unstopped (goesOn : GoesOn source options batch s n) : ¬(0 < n ∧ StopsAt source options batch s n) := by
  cases n with
  | zero => exact fun stops => absurd stops.1 (Nat.lt_irrefl 0)
  | succ n => exact fun stops => (goesOn n (Nat.lt_succ_self n)).2 stops.2

section Steps

variable [Gzip] {disk : Disk} {output : Sink} {table : List (List CellValue)} {r : Run σ ω} {outcome : Except Halt Unit}

theorem Telling.quiet (told : Telling batch n r) : ∀ p ∈ r.events, p.phase.isTerminal = false := by
  rw [told.events]
  refine List.forall_mem_cons.mpr ⟨rfl, fun p flush => ?_⟩
  obtain ⟨_, -, rfl⟩ := mem_flushes.mp flush
  rfl

theorem quiet_told {phase : Phase} (quiet : ∀ p ∈ r.events, p.phase.isTerminal = false)
    (unended : phase.isTerminal = false) : ∀ p ∈ (r.told options phase).events, p.phase.isTerminal = false :=
  List.forall_mem_append.mpr ⟨quiet, List.forall_mem_singleton.mpr unended⟩

/-! ## The loop -/

/-- How the loop over entities ends: stopped after a batch, which it tells, or otherwise, which it does not tell. Where it
    is to be stopped it goes on only to a failing disk. -/
inductive LoopTold (source : Source σ ω α) (options : ExportOptions ω) (batch : Nat) (s : σ × ω) :
    Except Halt Unit × Run σ ω → Prop
  | stopped {r : Run σ ω} (some_ : 0 < r.rows) (stops : StopsAt source options batch s r.rows)
      (quiet : ∀ p ∈ r.events, p.phase.isTerminal = false) :
      LoopTold source options batch s (.error (.error .cancelled), r.told options .cancelled)
  | silent {outcome : Except Halt Unit} {r : Run σ ω}
      (unstopped : ¬(0 < r.rows ∧ StopsAt source options batch s r.rows) ∨
        ∃ fault, outcome = .error (.error (.io fault)))
      (quiet : ∀ p ∈ r.events, p.phase.isTerminal = false) : LoopTold source options batch s (outcome, r)

theorem LoopEnd.goes {limit : Nat} (ends : LoopEnd source options batch s limit (.ok (), r)) :
    Telling batch r.rows r ∧ GoesOn source options batch s r.rows := by
  cases ends with
  | done goesOn told _ =>
      rw [told.rows]
      exact ⟨told, goesOn⟩

/-- A loop that has told that it is cancelled has told of no other end. -/
theorem LoopEnd.cancelled {limit : Nat}
    (ends : LoopEnd source options batch s limit (.error (.error .cancelled), r.told options .cancelled)) :
    ∀ p ∈ r.events, p.phase.isTerminal = false := by
  generalize ended : r.told options .cancelled = t at ends
  have events : t.events = r.events ++ [⟨.cancelled, r.rows, r.batches⟩] := ended ▸ rfl
  cases ends with
  | @stopped m u _ _ told =>
      have same : u.events ++ [⟨.cancelled, u.rows, u.batches⟩] = r.events ++ [⟨.cancelled, r.rows, r.batches⟩] :=
        events
      rw [← (List.append_inj' same rfl).1]
      exact told.quiet
  | @broken m _ _ _ flushed =>
      have told : (⟨.cancelled, r.rows, r.batches⟩ : Progress) ∈ t.events :=
        events ▸ List.mem_append_right _ List.mem_cons_self
      rw [flushed] at told
      simp [flushes] at told

theorem writeEntities_tells [LawfulGzip] (fits : schema.headers.length ≤ maxColumns)
    (h : At disk config schema source options s output table r) (told : Telling config.flushBatch table.length r)
    (goesOn : GoesOn source options config.flushBatch s table.length) (below : table.length + k < maxRows) :
    LoopTold source options config.flushBatch s ((writeEntities config options schema source k).on r) := by
  have unstopped := h.rows ▸ goesOn.unstopped
  induction k generalizing table r with
  | zero => exact .silent (.inl unstopped) told.quiet
  | succ k ih =>
      cases pull : source.next (r.source, r.world) with
      | mk pulled t =>
          have here := pull
          rw [h.place] at here
          cases pulled with
          | finished =>
              rw [writeEntities_finished config options schema k pull]
              exact .silent (.inl unstopped) told.quiet
          | fault e =>
              rw [writeEntities_fault config options schema k pull]
              exact .silent (.inl unstopped) told.quiet
          | entity a =>
              have step := writeEntities_entity fits h (by omega) (congrArg Prod.fst here)
              -- A loop over this entity alone shows what was told of it.
              have first := writeEntities_ends config options schema h.place told goesOn 1
              cases values : schema.valuesAt (table.length + 1) a with
              | error halt =>
                  rw [values] at step
                  obtain ⟨book, memo, ends⟩ := step
                  rw [ends k]
                  exact .silent (.inl unstopped) told.quiet
              | ok row =>
                  rw [values] at step
                  obtain ⟨t, there, stops, goes⟩ | ⟨-, fault, t, spoilt, failed⟩ := step
                  case inr =>
                    rw [failed k]
                    exact .silent (.inr ⟨fault, rfl⟩) (spoilt.events ▸ told.quiet)
                  have length : (table ++ [row]).length = table.length + 1 := by simp
                  by_cases stop : StopsAt source options config.flushBatch s (table.length + 1)
                  · rw [stops stop 0] at first
                    rw [stops stop k]
                    have rows := there.rows.trans length
                    exact .stopped (rows ▸ Nat.succ_pos _) (rows ▸ stop) first.cancelled
                  · rw [goes stop 0] at first
                    rw [goes stop k]
                    obtain ⟨told, goesOn⟩ := first.goes
                    rw [there.rows] at told goesOn
                    exact ih there told goesOn (by omega) (there.rows ▸ goesOn.unstopped)

/-! ## The whole export -/

/-- How an export ends: completed, which it tells; stopped after a batch, which it tells; or broken off, which it does
    not tell. -/
inductive ExportTold (source : Source σ ω α) (options : ExportOptions ω) (batch : Nat) (s : σ × ω) :
    Except Halt Unit × Run σ ω → Prop
  | completed {r : Run σ ω} (quiet : ∀ p ∈ r.events, p.phase.isTerminal = false) :
      ExportTold source options batch s (.ok (), r.told options .completed)
  | stopped {r : Run σ ω} (some_ : 0 < r.rows) (stops : StopsAt source options batch s r.rows)
      (quiet : ∀ p ∈ r.events, p.phase.isTerminal = false) :
      ExportTold source options batch s (.error (.error .cancelled), r.told options .cancelled)
  | silent {halt : Halt} {r : Run σ ω}
      (unstopped : ¬(0 < r.rows ∧ StopsAt source options batch s r.rows) ∨ ∃ fault, halt = .error (.io fault))
      (quiet : ∀ p ∈ r.events, p.phase.isTerminal = false) : ExportTold source options batch s (.error halt, r)

variable [Zip]

theorem conclude_told (now : Timestamp) (unstopped : ¬(0 < r.rows ∧ StopsAt source options batch s r.rows))
    (quiet : ∀ p ∈ r.events, p.phase.isTerminal = false) :
    ExportTold source options batch s ((conclude options now).on r) := by
  have writing : ∀ p ∈ (r.told options .writingWorkbook).events, p.phase.isTerminal = false := quiet_told quiet rfl
  obtain ⟨outcome, book, out, wrote⟩ : ∃ outcome book out, (writeOutput now).on (r.told options .writingWorkbook) =
      (outcome, { r.told options .writingWorkbook with workbook := book, output := out }) := ⟨_, _, _, rfl⟩
  rw [conclude, ActionOf.on_bind_ok (tell_on options .writingWorkbook r)]
  cases outcome with
  | error halt =>
      rw [ActionOf.on_bind_error wrote]
      exact .silent (.inl unstopped) writing
  | ok =>
      rw [ActionOf.on_bind_ok wrote, tell_on]
      exact .completed writing

theorem LoopTold.concluded {loop : RunStep σ ω Unit} (told : LoopTold source options batch s (loop.on r))
    (now : Timestamp) :
    ExportTold source options batch s ((do loop; conclude options now : RunStep σ ω Unit).on r) := by
  cases ran : loop.on r with
  | mk outcome t =>
      rw [ran] at told
      cases told with
      | stopped some_ stops quiet =>
          rw [ActionOf.on_bind_error ran]
          exact .stopped some_ stops quiet
      | silent unstopped quiet =>
          cases outcome with
          | error halt =>
              rw [ActionOf.on_bind_error ran]
              exact .silent (unstopped.imp_right fun ⟨fault, failed⟩ => ⟨fault, by cases failed; rfl⟩) quiet
          | ok =>
              rw [ActionOf.on_bind_ok ran]
              exact conclude_told now (unstopped.resolve_right fun ⟨_, failed⟩ => nomatch failed) quiet

theorem exportRows_tells [LawfulGzip] (config : Config) (options : ExportOptions ω) (schema : Schema α)
    (source : Source σ ω α) (filter : Option Filter) (now : Timestamp) (own : σ) (world : ω) (output : Sink)
    (spillDisk : Except IoFault Disk) :
    ExportTold source options config.flushBatch
      ((source.opening filter).on (own, options.listen ⟨.starting, 0, 0⟩ world)).2
      ((exportRows config options schema source filter now).on (start config own world output spillDisk)) := by
  have beginning := exportRows_beginning config options schema source filter now own world output spillDisk
  have quiet {r : Run σ ω} (events : r.events = [⟨.starting, 0, 0⟩]) : ∀ p ∈ r.events, p.phase.isTerminal = false :=
    events ▸ List.forall_mem_singleton.mpr rfl
  have unread {r : Run σ ω} {s : σ × ω} (rows : r.rows = 0) :
      ¬(0 < r.rows ∧ StopsAt source options config.flushBatch s r.rows) :=
    fun stops => absurd stops.1 (Nat.not_lt_of_le (Nat.le_of_eq rows))
  generalize (exportRows config options schema source filter now).on _ = ended at beginning ⊢
  cases beginning with
  | refused _ rows _ events => exact .silent (.inl (unread rows)) (quiet events)
  | unopened _ _ rows _ events => exact .silent (.inl (unread rows)) (quiet events)
  | @begun disk r s _ fits opens there events =>
      rw [opens]
      refine LoopTold.concluded (writeEntities_tells fits there ⟨there.rows, there.batches, ?_⟩
        (GoesOn.zero source options config.flushBatch s) ?_) now
      · rw [events, List.length_nil, Nat.zero_div]
        rfl
      · rw [List.length_nil, Nat.zero_add]
        exact rowLimit_lt config

end Steps

end Run

/-- An export tells of its end, as the last thing and once, exactly if it succeeds or somebody has asked it to stop
    after a batch. Whatever else it fails for, be it that its source says that it was cancelled, it tells of no end at
    all. -/
theorem export_tells_end_iff [Gzip] [Zip] [LawfulGzip] {α σ ω : Type} (config : Config) (options : ExportOptions ω)
    (schema : Schema α) (source : Source σ ω α) (filter : Option Filter) (now : Timestamp) (own : σ) (world : ω)
    (output : Sink) (spillDisk : Except IoFault Disk) :
    let run := exportTo config options schema source filter now own world output spillDisk
    let opened := ((source.opening filter).on (own, options.listen ⟨.starting, 0, 0⟩ world)).2
    (TellsEnd run.1 run.2.events ↔ run.1 = .ok () ∨ run.1 = .error (.error .cancelled) ∧ 0 < run.2.rows ∧
        Run.StopsAt source options config.flushBatch opened run.2.rows) ∧
      (TellsEnd run.1 run.2.events ∨ ∀ p ∈ run.2.events, p.phase.isTerminal = false) := by
  have told := Run.exportRows_tells config options schema source filter now own world output spillDisk
  intro run opened
  cases ran : (Run.exportRows config options schema source filter now).on (.start config own world output spillDisk) with
  | mk outcome r =>
      rw [ran] at told
      rw [show run = (outcome, r.finish source) from exportTo_of_rows ran]
      cases told with
      | @completed r quiet =>
          have ends : TellsEnd (.ok ()) (r.told options .completed).events := ⟨r.events, _, rfl, quiet, rfl⟩
          exact ⟨iff_of_true ends (.inl rfl), .inl ends⟩
      | @stopped r some_ stops quiet =>
          have ends : TellsEnd (.error (.error .cancelled)) (r.told options .cancelled).events :=
            ⟨r.events, _, rfl, quiet, rfl⟩
          exact ⟨iff_of_true ends (.inr ⟨rfl, some_, stops⟩), .inl ends⟩
      | @silent halt r unstopped quiet =>
          refine ⟨iff_of_false (not_tellsEnd quiet) ?_, .inr quiet⟩
          rintro (through | ⟨cancelled, stopped⟩)
          · cases through
          · rcases unstopped with unstopped | ⟨fault, rfl⟩
            · exact unstopped stopped
            · cases cancelled

/-- An export that somebody wants to stop tells so after its first row. -/
theorem export_tells_end_iff_stopped :
    let run := exportTo narrow ⟨fun _ => true, fun _ w => w⟩ names (Feed.plainSource "feed" (.ok endlessNames)) none
      midnight none () .unlimited
    run.1 = .error (.error .cancelled) ∧ TellsEnd run.1 run.2.events := by
  intro run
  have stopped : run.1 = .error (.error .cancelled) ∧ run.2.rows = 1 := by decide +kernel
  have told := export_tells_end_iff narrow ⟨fun _ => true, fun _ w => w⟩ names
    (Feed.plainSource "feed" (.ok endlessNames)) none midnight none () .unlimited (.ok .sound)
  simp only [run] at told stopped ⊢
  rw [stopped.2] at told
  exact ⟨stopped.1, told.1.mpr (.inr ⟨stopped.1, Nat.zero_lt_one, rfl, rfl⟩)⟩

/-- A source of names that fails at once. -/
def goneNames : Source (FeedState Unit String) Unit String :=
  Feed.source "src" (fun _ => .ok (.prepend #[.error (.dataSource none "gone" none)] .nil)) none

/-- The export of them fails, and whoever listens hears no more than that it starts. -/
theorem export_tells_no_end_gone :
    let run := exportTo .default ⟨fun _ => false, fun _ w => w⟩ names goneNames none midnight .initial () .unlimited
    run.1 = .error (.error (.dataSource none "gone" none)) ∧ run.2.events = [⟨.starting, 0, 0⟩] ∧
      ¬TellsEnd run.1 run.2.events := by
  intro run
  have failed : run.1 = .error (.error (Run.streamFault ([] : List String).length (.dataSource none "gone" none))) ∧
      run.2.rows = ([] : List String).length :=
    Run.exportTo_faulted midnight .unlimited (by decide) rfl (by decide) (fun _ _ item => nomatch item)
      (fun _ some_ none_ => absurd some_ (Nat.not_lt_of_le none_)) rfl rfl
  have begun : run.2.events = [⟨.starting, 0, 0⟩] := by decide +kernel
  refine ⟨failed.1, begun, not_tellsEnd ?_⟩
  rw [begun]
  exact List.forall_mem_singleton.mpr rfl

end SheetExport
