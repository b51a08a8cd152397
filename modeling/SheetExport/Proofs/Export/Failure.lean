import SheetExport.Proofs.Export.Reading

/-! # Exports that fail

A fault in a stream ends an export as it is if it says where it comes from, and otherwise with the number of rows by
then. Until an export tells that it writes the workbook, its output is untouched, and whatever fails by then is the last
thing that it has asked its source for.
-/

namespace SheetExport

namespace Run

variable [Gzip] {α σ ω : Type} {config : Config} {options : ExportOptions ω} {schema : Schema α} {source : Source σ ω α}
  {s : σ × ω} {output : Sink} {r : Run σ ω}

/-- A loop over entities that are good, with a fault behind them and a sound disk. -/
theorem writeEntities_faulted [LawfulGzip] (fits : schema.headers.length ≤ maxColumns)
    (h : At .sound config schema source options s output [] r) {entities : List α} {table : List (List CellValue)}
    {e : ExportError} (below : entities.length < rowLimit config)
    (each : ∀ i a, entities[i]? = some a → (source.next (course source options config.flushBatch s i)).1 = .entity a)
    (goesOn : ∀ n, 0 < n → n ≤ entities.length → ¬StopsAt source options config.flushBatch s n)
    (good : schema.tableOf 1 entities = .ok table)
    (fault : (source.next (course source options config.flushBatch s entities.length)).1 = .fault e) :
    ∃ t, (writeEntities config options schema source (rowLimit config)).on r =
      (.error (.error (streamFault entities.length e)), t) ∧ t.rows = entities.length := by
  have loop := writeEntities_list fits entities h
    (by rw [List.length_nil, Nat.zero_add]; exact Nat.lt_trans below (rowLimit_lt config))
    (fun i a inside => by rw [List.length_nil, Nat.zero_add]; exact each i a inside)
    (fun n some_ le => goesOn n some_ (by simpa using le))
  rw [List.length_nil, Nat.zero_add, good] at loop
  obtain ⟨t, there, steps⟩ := loop
  rw [List.nil_append] at there
  obtain ⟨n, left⟩ : ∃ n, rowLimit config = n + 1 + entities.length := ⟨rowLimit config - entities.length - 1, by omega⟩
  have rows : t.rows = entities.length := there.rows.trans (Schema.length_of_tableOf good)
  obtain ⟨next, pulled⟩ : ∃ next, source.next (t.source, t.world) = (.fault e, next) := by
    rw [there.place, Schema.length_of_tableOf good]
    exact ⟨_, Prod.ext fault rfl⟩
  have failed := writeEntities_fault config options schema n pulled
  rw [rows] at failed
  rw [left]
  exact ⟨_, (steps (n + 1)).trans failed, rfl⟩

/-- What an export with a sound disk fails with for a fault behind entities that are good. -/
theorem exportTo_faulted [Zip] [LawfulGzip] {filter : Option Filter} (now : Timestamp) {own : σ} {world : ω}
    (output : Sink) (fits : schema.headers.length ≤ maxColumns)
    (opens : (source.opening filter).on (own, options.listen ⟨.starting, 0, 0⟩ world) = (.ok (), s))
    {entities : List α} {table : List (List CellValue)} {e : ExportError} (below : entities.length < rowLimit config)
    (each : ∀ i a, entities[i]? = some a → (source.next (course source options config.flushBatch s i)).1 = .entity a)
    (goesOn : ∀ n, 0 < n → n ≤ entities.length → ¬StopsAt source options config.flushBatch s n)
    (good : schema.tableOf 1 entities = .ok table)
    (fault : (source.next (course source options config.flushBatch s entities.length)).1 = .fault e) :
    let run := exportTo config options schema source filter now own world output
    run.1 = .error (.error (streamFault entities.length e)) ∧ run.2.rows = entities.length := by
  obtain ⟨r, there, begun⟩ := exportRows_begun config options schema source filter now own world output fits opens
  obtain ⟨t, failed, rows⟩ := writeEntities_faulted fits there below each goesOn good fault
  rw [ActionOf.on_bind_error failed] at begun
  rw [exportTo_of_rows begun]
  exact ⟨rfl, rows⟩

end Run

/-- What an export fails with, and what it leaves. For a fault behind entities that are good, with a sound disk, room
    for another row and nobody asking it to stop, it is that fault if it says where it comes from, and otherwise tells
    of the rows that came before it. Whatever an export fails with before it tells that it writes the workbook, its
    output is untouched, and its log ends with what failed: nothing if the header was refused, the opening of the
    stream, the last row of the batch after which it was asked to stop or which it could not flush, or the entity that
    was asked for last. -/
theorem failures_of_export [Gzip] [Zip] [LawfulGzip] {α σ ω : Type} (config : Config) (options : ExportOptions ω)
    (schema : Schema α) (source : Source σ ω α) (filter : Option Filter) (now : Timestamp) (own : σ)
    (log : List SourceCall) (world : ω) (output : Sink) (spillDisk : Except IoFault Disk) :
    let run := exportTo config options schema source.logged filter now (own, log) world output spillDisk
    let opened := (source.opening filter).on (own, options.listen ⟨.starting, 0, 0⟩ world)
    let pull (rows : Nat) := (source.next (Run.course source options config.flushBatch opened.2 rows)).1
    let stops := Run.StopsAt source options config.flushBatch opened.2
    exportTo config options schema source filter now own world output spillDisk = (run.1, run.2.viewed Prod.fst) ∧
    (∀ entities table e, spillDisk = .ok .sound → schema.headers.length ≤ 16384 → opened.1 = .ok () →
      entities.length < min (config.maxRows.getD 1048574) 1048574 →
      (∀ i a, entities[i]? = some a → pull i = .entity a) → (∀ n, 0 < n → n ≤ entities.length → ¬stops n) →
      schema.tableOf 1 entities = .ok table → pull entities.length = .fault e →
      run.2.rows = entities.length ∧ run.1 = .error (.error (match e with
        | .dataSource .. | .streamProcessing .. | .validation .. | .cancelled => e
        | _ => .streamProcessing entities.length e.message))) ∧
    ((∀ p ∈ run.2.events, p.phase ≠ .writingWorkbook) → run.2.output = output ∧
      ∃ halt calls, run.1 = .error halt ∧ run.2.source.2 = log ++ calls ++ [.close] ∧
        (calls = [] ∨ (calls = [.opening filter] ∧ ∃ e, opened.1 = .error e ∧ halt = .error e) ∨
          (calls = .opening filter :: List.replicate run.2.rows .next ∧
            (stops run.2.rows ∧ halt = .error .cancelled ∨
              run.2.rows % config.flushBatch = 0 ∧ spillDisk ≠ .ok .sound ∧ ∃ fault, halt = .error (.io fault))) ∨
          calls = .opening filter :: List.replicate (run.2.rows + 1) .next ∧
            ((∃ e, pull run.2.rows = .fault e ∧ halt = .error (Run.streamFault run.2.rows e)) ∨
              (∃ a, pull run.2.rows = .entity a ∧ schema.valuesAt (run.2.rows + 1) a = .error halt) ∨
              ∃ a fault, pull run.2.rows = .entity a ∧ spillDisk ≠ .ok .sound ∧ halt = .error (.io fault)))) := by
  intro run opened pull stops
  have same := exportTo_shows source.logged_shows config options schema filter now (own, log) world output spillDisk
  refine ⟨same, ?_, ?_⟩
  · intro entities table e sound fits opens below each goesOn good fault
    subst sound
    obtain ⟨failed, rows⟩ := Run.exportTo_faulted now output fits (Prod.ext opens rfl) below each goesOn good fault
    rw [same] at failed rows
    refine ⟨rows, failed.trans ?_⟩
    cases e <;> rfl
  · obtain ⟨calls, logged, reading⟩ : ∃ calls, run.2.source.2 = log ++ calls ++ [.close] ∧
        Run.LoggedReading config schema source options spillDisk filter (own, options.listen ⟨.starting, 0, 0⟩ world)
          output calls run := exportTo_reads config options schema source filter now own log world output spillDisk
    clear_value run
    intro quiet
    cases reading with
    | @unread _ e r unopened rows untouched =>
        refine ⟨untouched, _, calls, rfl, logged, unopened.imp_right fun ⟨only, failed⟩ => .inl ⟨only, e, failed, rfl⟩⟩
    | @broken _ pulls halt r opens ends untouched =>
        obtain rfl := congrArg Prod.snd opens
        refine ⟨untouched, halt, _, rfl, logged, .inr (.inr ?_)⟩
        rcases ends.counted with ⟨rfl, ⟨-, through⟩ | ⟨stopped, cancelled⟩ | ⟨full, unsound, fault, failed⟩⟩ |
          ⟨rfl, -, ⟨-, through⟩ | ⟨_, failed, why⟩⟩
        · cases through
        · cases cancelled
          exact .inl ⟨rfl, .inl ⟨stopped, rfl⟩⟩
        · cases failed
          exact .inl ⟨rfl, .inr ⟨full, unsound, fault, rfl⟩⟩
        · cases through
        · cases failed
          exact .inr ⟨rfl, why⟩
    | through _ _ told =>
        obtain ⟨p, inside, writing⟩ := told
        exact absurd writing (quiet p inside)

/-- Two names, and a file that is missing behind them. -/
def brokenNames : Source (Feed.Reading Unit String) Unit String :=
  Feed.plainSource "feed" (.ok (.prepend #[.ok "a", .ok "b", .error (.io .notFound)] .nil))

theorem brokenNames_untold :
    ∀ p ∈ (exportTo .default ⟨fun _ => false, fun _ w => w⟩ names brokenNames.logged none midnight (none, []) ()
      .unlimited).2.events, p.phase ≠ .writingWorkbook := by
  decide +kernel

theorem message_notFound : ExportError.message (.io .notFound) = "IO error: No such file or directory (os error 2)" := by
  decide +kernel

/-- The export of them fails after two rows, tells so, and writes nothing. -/
theorem failures_of_export_missing_file :
    let run := exportTo .default ⟨fun _ => false, fun _ w => w⟩ names brokenNames.logged none midnight (none, []) ()
      .unlimited
    run.1 = .error (.error (.streamProcessing 2 "IO error: No such file or directory (os error 2)")) ∧
      run.2.rows = 2 ∧ run.2.output = .unlimited := by
  obtain ⟨faulted, failed⟩ := (failures_of_export .default ⟨fun _ => false, fun _ w => w⟩ names brokenNames none midnight
    none [] () .unlimited (.ok .sound)).2
  have entities (i : Nat) (a : String) (item : ["a", "b"][i]? = some a) :
      (brokenNames.next (Run.course brokenNames ⟨fun _ => false, fun _ w => w⟩ Config.default.flushBatch
        ((brokenNames.opening none).on (none, ())).2 i)).1 = .entity a := by
    match i with
    | 0 | 1 => cases item; rfl
    | i + 2 => cases item
  obtain ⟨rows, fault⟩ := faulted ["a", "b"] [[.text "a"], [.text "b"]] (.io .notFound) rfl (by decide) rfl (by decide)
    entities (fun n _ _ stops => Bool.false_ne_true stops.2) rfl rfl
  simp only [message_notFound] at fault
  exact ⟨fault, rows, (failed brokenNames_untold).1⟩

end SheetExport
