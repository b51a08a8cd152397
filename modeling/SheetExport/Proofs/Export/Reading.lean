import SheetExport.Proofs.Export.Events
import SheetExport.Proofs.Export.Release
import SheetExport.Proofs.Export.Success

/-! # How an export reads its source

The loop over entities asks for one entity at a time and makes a row of it before it asks for the next. `ReadingEnd` has
each way in which that ends, with the rows that were written by then and the entities that were asked for; `Pulled` is
what the source and the world come to meanwhile. Nothing reaches the output before the loop has come through.
-/

namespace SheetExport

namespace Run

variable {α σ τ ω : Type}

section Endings

variable (config : Config) (schema : Schema α) (source : Source σ ω α) (options : ExportOptions ω)
  (spillDisk : Except IoFault Disk) (s : σ × ω) (limit : Nat)

/-- A source and the world around it once so many entities were asked for, whatever was told in between. -/
inductive Pulled : Nat → σ × ω → Prop where
  | begun : Pulled 0 s
  | next {k : Nat} {t : σ × ω} : Pulled k t → Pulled (k + 1) (source.next t).2
  | heard {k : Nat} {t : σ × ω} (p : Progress) : Pulled k t → Pulled k (t.1, options.listen p t.2)

/-- How the reading of a stream ends, after how many rows and entities asked for, and what comes of it: there are as
    many rows as there may be, the export is stopped after a batch, the entity asked for last is not to be had, is a
    fault or is bad, or the disk fails while its row is placed or a batch is flushed. -/
inductive ReadingEnd : Nat → Nat → Except Halt Unit → Prop where
  | full : ReadingEnd limit limit (.ok ())
  | stopped {n : Nat} (some_ : 0 < n) (le : n ≤ limit) (stops : StopsAt source options config.flushBatch s n) :
      ReadingEnd n n (.error (.error .cancelled))
  | finished {n : Nat} (lt : n < limit)
      (pulled : (source.next (course source options config.flushBatch s n)).1 = .finished) :
      ReadingEnd n (n + 1) (.ok ())
  | fault {n : Nat} {e : ExportError} (lt : n < limit)
      (pulled : (source.next (course source options config.flushBatch s n)).1 = .fault e) :
      ReadingEnd n (n + 1) (.error (.error (streamFault n e)))
  | bad {n : Nat} {a : α} {halt : Halt} (lt : n < limit)
      (pulled : (source.next (course source options config.flushBatch s n)).1 = .entity a)
      (refused : schema.valuesAt (n + 1) a = .error halt) :
      ReadingEnd n (n + 1) (.error halt)
  | unplaced {n : Nat} {a : α} {fault : IoFault} (lt : n < limit)
      (pulled : (source.next (course source options config.flushBatch s n)).1 = .entity a)
      (unsound : spillDisk ≠ .ok .sound) : ReadingEnd n (n + 1) (.error (.error (.io fault)))
  | unflushed {n : Nat} {fault : IoFault} (le : n ≤ limit) (full : n % config.flushBatch = 0)
      (unsound : spillDisk ≠ .ok .sound) : ReadingEnd n n (.error (.error (.io fault)))

end Endings

variable {config : Config} {schema : Schema α} {source : Source σ ω α} {options : ExportOptions ω}
  {spillDisk : Except IoFault Disk} {s : σ × ω} {limit n k pulls : Nat} {outcome : Except Halt Unit}

theorem ReadingEnd.pulls_le (ends : ReadingEnd config schema source options spillDisk s limit n pulls outcome) :
    pulls ≤ limit := by
  cases ends with
  | full => exact Nat.le_refl limit
  | stopped _ le => exact le
  | finished lt => exact lt
  | fault lt => exact lt
  | bad lt => exact lt
  | unplaced lt => exact lt
  | unflushed le => exact le

/-- With as many rows as there may be, nothing more was asked for. -/
theorem ReadingEnd.pulls_of_full (ends : ReadingEnd config schema source options spillDisk s limit n pulls outcome)
    (full : n = limit) : pulls = limit := by
  cases ends with
  | full => rfl
  | stopped => exact full
  | finished lt => exact absurd full (Nat.ne_of_lt lt)
  | fault lt => exact absurd full (Nat.ne_of_lt lt)
  | bad lt => exact absurd full (Nat.ne_of_lt lt)
  | unplaced lt => exact absurd full (Nat.ne_of_lt lt)
  | unflushed => exact full

/-- A stream is read without a failure up to the limit or to its end. -/
theorem ReadingEnd.through (ends : ReadingEnd config schema source options spillDisk s limit n pulls (.ok ())) :
    n = limit ∨ n < limit ∧ (source.next (course source options config.flushBatch s n)).1 = .finished := by
  cases ends with
  | full => exact .inl rfl
  | finished lt pulled => exact .inr ⟨lt, pulled⟩

/-- What the ways in which reading ends have in common: nothing is asked for behind the last row if the limit is reached,
    the export is stopped or a batch is not flushed, and one entity otherwise. -/
theorem ReadingEnd.counted (ends : ReadingEnd config schema source options spillDisk s limit n pulls outcome) :
    let pull := (source.next (course source options config.flushBatch s n)).1
    (pulls = n ∧ (n = limit ∧ outcome = .ok () ∨
        StopsAt source options config.flushBatch s n ∧ outcome = .error (.error .cancelled) ∨
        n % config.flushBatch = 0 ∧ spillDisk ≠ .ok .sound ∧ ∃ fault, outcome = .error (.error (.io fault)))) ∨
      (pulls = n + 1 ∧ n < limit ∧ (pull = .finished ∧ outcome = .ok () ∨ ∃ halt, outcome = .error halt ∧
        ((∃ e, pull = .fault e ∧ halt = .error (streamFault n e)) ∨
          (∃ a, pull = .entity a ∧ schema.valuesAt (n + 1) a = .error halt) ∨
          ∃ a fault, pull = .entity a ∧ spillDisk ≠ .ok .sound ∧ halt = .error (.io fault)))) := by
  cases ends with
  | full => exact .inl ⟨rfl, .inl ⟨rfl, rfl⟩⟩
  | stopped _ _ stops => exact .inl ⟨rfl, .inr (.inl ⟨stops, rfl⟩)⟩
  | finished lt pulled => exact .inr ⟨rfl, lt, .inl ⟨pulled, rfl⟩⟩
  | fault lt pulled => exact .inr ⟨rfl, lt, .inr ⟨_, rfl, .inl ⟨_, pulled, rfl⟩⟩⟩
  | bad lt pulled refused => exact .inr ⟨rfl, lt, .inr ⟨_, rfl, .inr (.inl ⟨_, pulled, refused⟩)⟩⟩
  | unplaced lt pulled unsound => exact .inr ⟨rfl, lt, .inr ⟨_, rfl, .inr (.inr ⟨_, _, pulled, unsound, rfl⟩)⟩⟩
  | unflushed _ full unsound => exact .inl ⟨rfl, .inr (.inr ⟨full, unsound, _, rfl⟩)⟩

/-! ## The loop -/

/-- On its course an export asks for one entity a row. -/
theorem course_pulled (source : Source σ ω α) (options : ExportOptions ω) (batch : Nat) (s : σ × ω) (n : Nat) :
    Pulled source options s n (course source options batch s n) := by
  induction n with
  | zero => exact .begun
  | succ n ih =>
      rw [course]
      split
      · exact .heard _ (.next ih)
      · exact .next ih

section Runs

variable [Gzip] {r : Run σ ω}

/-- The loop over entities ends in one of these ways, and leaves the output alone. -/
theorem writeEntities_reads [LawfulGzip] {disk : Disk} {output : Sink} {table : List (List CellValue)}
    (fits : schema.headers.length ≤ maxColumns) (h : At disk config schema source options s output table r)
    (below : table.length + k < maxRows) :
    ∃ n pulls outcome t, (writeEntities config options schema source k).on r = (outcome, t) ∧
      ReadingEnd config schema source options (.ok disk) s (table.length + k) n pulls outcome ∧ t.rows = n ∧
      t.output = output ∧ Pulled source options s pulls (t.source, t.world) := by
  have before := course_pulled source options config.flushBatch s table.length
  induction k generalizing table r with
  | zero => exact ⟨_, _, _, r, rfl, .full, h.rows, h.output, by rw [h.place]; exact before⟩
  | succ k ih =>
      have lt : table.length < table.length + (k + 1) := by omega
      cases pull : source.next (r.source, r.world) with
      | mk pulled t =>
          have here := pull
          rw [h.place] at here
          have after := before.next
          rw [here] at after
          cases pulled with
          | finished =>
              exact ⟨_, _, _, _, writeEntities_finished config options schema k pull,
                .finished lt (by rw [here]), h.rows, h.output, after⟩
          | fault e =>
              have failed := writeEntities_fault config options schema k pull
              rw [h.rows] at failed
              exact ⟨_, _, _, _, failed, .fault lt (by rw [here]), rfl, h.output, after⟩
          | entity a =>
              have step := writeEntities_entity fits h (by omega) (congrArg Prod.fst here)
              cases values : schema.valuesAt (table.length + 1) a with
              | error halt =>
                  rw [values, here] at step
                  obtain ⟨book, memo, ends⟩ := step
                  exact ⟨_, _, _, _, ends k, .bad lt (by rw [here]) values, h.rows, h.output, after⟩
              | ok row =>
                  rw [values] at step
                  obtain ⟨t, there, stops, goesOn⟩ | ⟨unsound, fault, t, spoilt, failed⟩ := step
                  case inr =>
                    have unsound : (Except.ok disk : Except IoFault Disk) ≠ .ok .sound :=
                      fun same => unsound (Except.ok.inj same)
                    have place : Pulled source options s (table.length + 1) (t.source, t.world) := by
                      rw [spoilt.place, here]
                      exact after
                    rcases spoilt.rows with rows | ⟨rows, full⟩
                    · exact ⟨_, _, _, t, failed k, .unplaced lt (by rw [here]) unsound, rows,
                        spoilt.output.trans h.output, place⟩
                    · exact ⟨_, _, _, t, failed k, .unflushed (by omega) full unsound, rows,
                        spoilt.output.trans h.output, place⟩
                  have length : (table ++ [row]).length = table.length + 1 := by simp
                  have place := there.place
                  have counted := course_pulled source options config.flushBatch s (table ++ [row]).length
                  by_cases stop : StopsAt source options config.flushBatch s (table.length + 1)
                  · refine ⟨_, _, _, _, stops stop k, .stopped (Nat.succ_pos _) (by omega) stop, ?_, there.output, ?_⟩
                    · exact there.rows.trans length
                    · rw [← place, length] at counted
                      exact counted.heard _
                  · rw [goesOn stop k]
                    have rest := ih there (by rw [length]; omega) counted
                    rwa [length, Nat.add_assoc, Nat.add_comm 1] at rest

/-! ## The whole export -/

section Endings

variable (config : Config) (schema : Schema α) (source : Source σ ω α) (options : ExportOptions ω)
  (spillDisk : Except IoFault Disk) (filter : Option Filter) (start : σ × ω) (output : Sink)

/-- How an export uses its source and its output: it does not come to read a stream, what it reads breaks it off with
    the output untouched, or it comes to write the workbook. -/
inductive ExportReading : Except Halt Unit × Run σ ω → Prop where
  | refused {e : ExportError} {r : Run σ ω} (place : (r.source, r.world) = start) (rows : r.rows = 0)
      (untouched : r.output = output) : ExportReading (.error (.error e), r)
  | unopened {e : ExportError} {r : Run σ ω} {s : σ × ω} (failed : (source.opening filter).on start = (.error e, s))
      (place : (r.source, r.world) = s) (rows : r.rows = 0) (untouched : r.output = output) :
      ExportReading (.error (.error e), r)
  | broken {s : σ × ω} {pulls : Nat} {halt : Halt} {r : Run σ ω}
      (opened : (source.opening filter).on start = (.ok (), s))
      (ends : ReadingEnd config schema source options spillDisk s (rowLimit config) r.rows pulls (.error halt))
      (pulled : Pulled source options s pulls (r.source, r.world)) (untouched : r.output = output) :
      ExportReading (.error halt, r)
  | through {s : σ × ω} {pulls : Nat} {outcome : Except Halt Unit} {r : Run σ ω}
      (opened : (source.opening filter).on start = (.ok (), s))
      (ends : ReadingEnd config schema source options spillDisk s (rowLimit config) r.rows pulls (.ok ()))
      (pulled : Pulled source options s pulls (r.source, r.world)) (told : ∃ p ∈ r.events, p.phase = .writingWorkbook) :
      ExportReading (outcome, r)

end Endings

variable [Zip]

/-- Once the loop has come through, the workbook is told of, and the source is let alone. -/
theorem conclude_tells (options : ExportOptions ω) (now : Timestamp) (r : Run σ ω) :
    ((conclude options now).on r).2.rows = r.rows ∧
      ∃ p ∈ ((conclude options now).on r).2.events, p.phase = .writingWorkbook := by
  obtain ⟨outcome, book, out, wrote⟩ : ∃ outcome book out, (writeOutput now).on (r.told options .writingWorkbook) =
      (outcome, { r.told options .writingWorkbook with workbook := book, output := out }) := ⟨_, _, _, rfl⟩
  rw [conclude, ActionOf.on_bind_ok (tell_on options .writingWorkbook r)]
  cases outcome with
  | error halt =>
      rw [ActionOf.on_bind_error wrote]
      exact ⟨rfl, _, List.mem_append_right _ List.mem_cons_self, rfl⟩
  | ok =>
      rw [ActionOf.on_bind_ok wrote, tell_on]
      exact ⟨rfl, _, List.mem_append_left _ (List.mem_append_right _ List.mem_cons_self), rfl⟩

theorem exportRows_reads [LawfulGzip] (config : Config) (options : ExportOptions ω) (schema : Schema α)
    (source : Source σ ω α) (filter : Option Filter) (now : Timestamp) (own : σ) (world : ω) (output : Sink)
    (spillDisk : Except IoFault Disk) :
    ExportReading config schema source options spillDisk filter (own, options.listen ⟨.starting, 0, 0⟩ world) output
      ((exportRows config options schema source filter now).on (start config own world output spillDisk)) := by
  have beginning := exportRows_beginning config options schema source filter now own world output spillDisk
  generalize (exportRows config options schema source filter now).on _ = ended at beginning ⊢
  cases beginning with
  | refused place rows untouched => exact .refused place rows untouched
  | unopened failed place rows untouched => exact .unopened failed place rows untouched
  | @begun disk r s room fits opens there =>
      subst room
      obtain ⟨n, pulls, outcome, t, ran, ends, rfl, untouched, pulled⟩ := writeEntities_reads fits there
        (show [].length + rowLimit config < maxRows by rw [List.length_nil, Nat.zero_add]; exact rowLimit_lt config)
      rw [List.length_nil, Nat.zero_add] at ends
      cases outcome with
      | error halt =>
          rw [ActionOf.on_bind_error ran]
          exact .broken opens ends pulled untouched
      | ok =>
          obtain ⟨rows, told⟩ := conclude_tells options now t
          have kept := conclude_keeps (P := Pulled source options s pulls)
            (fun p own world pulled => pulled.heard p) now t pulled
          obtain ⟨outcome, u, concluded⟩ : ∃ outcome u, (conclude options now).on t = (outcome, u) := ⟨_, _, rfl⟩
          rw [concluded] at rows told kept
          rw [ActionOf.on_bind_ok ran, concluded]
          exact .through opens (rows ▸ ends) kept told

end Runs

/-! ## With a log -/

theorem course_shows {view : τ → σ} {outer : Source τ ω α} {inner : Source σ ω α} (shows : outer.Shows view inner)
    (options : ExportOptions ω) (batch : Nat) (t : τ × ω) (n : Nat) :
    course inner options batch (view t.1, t.2) n =
      (view (course outer options batch t n).1, (course outer options batch t n).2) := by
  induction n with
  | zero => rfl
  | succ n ih =>
      rw [course, ih, shows.next, course]
      split <;> rfl

/-- What ends the reading of a source ends that of another one which it shows. -/
theorem ReadingEnd.viewed {view : τ → σ} {outer : Source τ ω α} {inner : Source σ ω α} (shows : outer.Shows view inner)
    {t : τ × ω} (ends : ReadingEnd config schema outer options spillDisk t limit n pulls outcome) :
    ReadingEnd config schema inner options spillDisk (view t.1, t.2) limit n pulls outcome := by
  have pull (n : Nat) : (inner.next (course inner options config.flushBatch (view t.1, t.2) n)).1 =
      (outer.next (course outer options config.flushBatch t n)).1 := by rw [course_shows shows, shows.next]
  cases ends with
  | full => exact .full
  | stopped some_ le stops =>
      refine .stopped some_ le ⟨stops.1, ?_⟩
      rw [course_shows shows]
      exact stops.2
  | finished lt pulled => exact .finished lt ((pull n).trans pulled)
  | fault lt pulled => exact .fault lt ((pull n).trans pulled)
  | bad lt pulled refused => exact .bad lt ((pull n).trans pulled) refused
  | unplaced lt pulled unsound => exact .unplaced lt ((pull n).trans pulled) unsound
  | unflushed le full unsound => exact .unflushed le full unsound

/-- The log of a source tells how many entities were asked for. -/
theorem Pulled.logged {s t : (σ × List SourceCall) × ω} (pulled : Pulled source.logged options s k t) :
    t.1.2 = s.1.2 ++ List.replicate k .next := by
  induction pulled with
  | begun => exact (List.append_nil _).symm
  | next _ ih =>
      rw [List.replicate_succ', ← List.append_assoc, ← ih]
      rfl
  | heard p _ ih => exact ih

/-- To open a stream adds to the log and does what it does without one. -/
theorem logged_opening (source : Source σ ω α) (filter : Option Filter) (own : σ) (log : List SourceCall) (world : ω) :
    let opened := (source.opening filter).on (own, world)
    (source.logged.opening filter).on ((own, log), world) =
      (opened.1, (opened.2.1, log ++ [.opening filter]), opened.2.2) := by
  cases filter <;> rfl

section Logs

variable [Gzip] (config : Config) (schema : Schema α) (source : Source σ ω α) (options : ExportOptions ω)
  (spillDisk : Except IoFault Disk) (filter : Option Filter) (start : σ × ω) (output : Sink)

/-- How an export uses its source and its output, as its log tells. -/
inductive LoggedReading : List SourceCall → Except Halt Unit × Run τ ω → Prop where
  | unread {calls : List SourceCall} {e : ExportError} {r : Run τ ω}
      (unopened : calls = [] ∨ calls = [.opening filter] ∧ ((source.opening filter).on start).1 = .error e)
      (rows : r.rows = 0) (untouched : r.output = output) : LoggedReading calls (.error (.error e), r)
  | broken {s : σ × ω} {pulls : Nat} {halt : Halt} {r : Run τ ω}
      (opened : (source.opening filter).on start = (.ok (), s))
      (ends : ReadingEnd config schema source options spillDisk s (rowLimit config) r.rows pulls (.error halt))
      (untouched : r.output = output) :
      LoggedReading (.opening filter :: List.replicate pulls .next) (.error halt, r)
  | through {s : σ × ω} {pulls : Nat} {outcome : Except Halt Unit} {r : Run τ ω}
      (opened : (source.opening filter).on start = (.ok (), s))
      (ends : ReadingEnd config schema source options spillDisk s (rowLimit config) r.rows pulls (.ok ()))
      (told : ∃ p ∈ r.events, p.phase = .writingWorkbook) :
      LoggedReading (.opening filter :: List.replicate pulls .next) (outcome, r)

end Logs

/-- Once a stream was opened, the log shows it and what was asked of it. -/
theorem Pulled.logged_opened {own : σ} {world : ω} {filter : Option Filter} {log : List SourceCall}
    {s t : (σ × List SourceCall) × ω} (opened : (source.logged.opening filter).on ((own, log), world) = (.ok (), s))
    (pulled : Pulled source.logged options s k t) :
    (source.opening filter).on (own, world) = (.ok (), (s.1.1, s.2)) ∧
      t.1.2 = log ++ .opening filter :: List.replicate k .next := by
  rw [logged_opening] at opened
  cases opens : (source.opening filter).on (own, world) with
  | mk outcome place =>
      rw [opens] at opened
      cases opened
      exact ⟨rfl, by rw [pulled.logged, List.append_assoc]; rfl⟩

end Run

variable [Gzip] [Zip]

/-- What comes of an export is what comes of writing its rows, with the source closed after it. -/
theorem exportTo_of_rows {α σ ω : Type} {config : Config} {options : ExportOptions ω} {schema : Schema α}
    {source : Source σ ω α} {filter : Option Filter} {now : Timestamp} {own : σ} {world : ω} {output : Sink}
    {spillDisk : Except IoFault Disk} {outcome : Except Halt Unit} {r : Run σ ω}
    (ran : (Run.exportRows config options schema source filter now).on (.start config own world output spillDisk) =
      (outcome, r)) :
    exportTo config options schema source filter now own world output spillDisk = (outcome, r.finish source) :=
  congrArg (fun x => (x.1, x.2.finish source)) ran

open Run in
/-- An export closes a source that keeps a log once, at its end, and the log shows what it has used the source for. -/
theorem exportTo_reads [LawfulGzip] {α σ ω : Type} (config : Config) (options : ExportOptions ω) (schema : Schema α)
    (source : Source σ ω α) (filter : Option Filter) (now : Timestamp) (own : σ) (log : List SourceCall) (world : ω)
    (output : Sink) (spillDisk : Except IoFault Disk) :
    let run := exportTo config options schema source.logged filter now (own, log) world output spillDisk
    ∃ calls, run.2.source.2 = log ++ calls ++ [.close] ∧
      LoggedReading config schema source options spillDisk filter (own, options.listen ⟨.starting, 0, 0⟩ world) output
        calls run := by
  have reading := exportRows_reads config options schema source.logged filter now (own, log) world output spillDisk
  intro run
  cases ran : (exportRows config options schema source.logged filter now).on
      (.start config (own, log) world output spillDisk) with
  | mk outcome r =>
      have result : run = (outcome, r.finish source.logged) := exportTo_of_rows ran
      have closed : (r.finish source.logged).source.2 = r.source.2 ++ [.close] := rfl
      rw [ran] at reading
      rw [result]
      simp only [closed]
      cases reading with
      | refused place rows untouched =>
          exact ⟨[], by rw [show r.source = (own, log) from congrArg Prod.fst place, List.append_nil],
            .unread (.inl rfl) rows untouched⟩
      | @unopened e _ s failed place rows untouched =>
          rw [logged_opening] at failed
          have log_ : s.1.2 = log ++ [.opening filter] := congrArg (fun x => x.2.1.2) failed.symm
          rw [← congrArg Prod.fst place] at log_
          exact ⟨[.opening filter], by rw [← log_], .unread (.inr ⟨rfl, congrArg Prod.fst failed⟩) rows untouched⟩
      | broken opened ends pulled untouched =>
          obtain ⟨opens, logged⟩ := pulled.logged_opened opened
          exact ⟨_, congrArg (· ++ _) logged, .broken opens (ends.viewed source.logged_shows) untouched⟩
      | through opened ends pulled told =>
          obtain ⟨opens, logged⟩ := pulled.logged_opened opened
          exact ⟨_, congrArg (· ++ _) logged, .through opens (ends.viewed source.logged_shows) told⟩

end SheetExport
