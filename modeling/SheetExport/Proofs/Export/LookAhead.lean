import Mathlib.Data.Nat.Find
import SheetExport.Proofs.Export.Reading

/-! # Exports do not read ahead

An export asks for an entity only when it has a place for it. What it has asked for is therefore known from the rows
that it wrote, and of a feed whose entities are filtered it asks for nothing behind the last one that it writes. Its
loop ends whatever the source does, because each turn that goes on writes a row.
-/

namespace SheetExport

namespace Run

variable {α σ ω : Type}

/-! ## The loop comes to an end -/

/-- There is room for another row: there are fewer than a sheet may have, and than were asked for. -/
def HasRoom (config : Config) (rows : Nat) : Prop :=
  rows + 1 < rowIndexLimit ∧ ∀ limit ∈ config.maxRows, rows < limit

theorem hasRoom_iff (config : Config) (rows : Nat) : HasRoom config rows ↔ rows < rowLimit config := by
  rw [HasRoom, rowLimit]
  cases config.maxRows with
  | none =>
      simp only [Option.getD_none, Option.not_mem_none, false_implies, implies_true, and_true]
      omega
  | some limit =>
      simp only [Option.getD_some, Option.mem_some_iff, forall_eq']
      omega

variable [Gzip]

/-- One entity: it is asked for and becomes a row. The loop goes on unless there was none. -/
def turn (config : Config) (options : ExportOptions ω) (schema : Schema α) (source : Source σ ω α) :
    RunStep σ ω Bool := do
  match ← readSource source.next with
  | .finished => pure false
  | .fault e => throw (.error (streamFault (← get).rows e))
  | .entity a => do
      writeEntity config schema a
      if (← get).rows % config.flushBatch = 0 then endBatch options
      pure true

section Loop

variable (config : Config) (options : ExportOptions ω) (schema : Schema α) (source : Source σ ω α)

/-- How the loop over entities runs that has no bound of its own: before each entity it looks whether there is room. A
    loop that did not end would have no outcome here. -/
inductive ReadsOn : Run σ ω → Except Halt Unit × Run σ ω → Prop where
  | full {r : Run σ ω} (noRoom : ¬HasRoom config r.rows) : ReadsOn r (.ok (), r)
  | finished {r t : Run σ ω} (room : HasRoom config r.rows)
      (ran : (turn config options schema source).on r = (.ok false, t)) : ReadsOn r (.ok (), t)
  | failed {r t : Run σ ω} {halt : Halt} (room : HasRoom config r.rows)
      (ran : (turn config options schema source).on r = (.error halt, t)) : ReadsOn r (.error halt, t)
  | next {r t : Run σ ω} {out : Except Halt Unit × Run σ ω} (room : HasRoom config r.rows)
      (ran : (turn config options schema source).on r = (.ok true, t)) (rest : ReadsOn t out) : ReadsOn r out

end Loop

variable {config : Config} {schema : Schema α} {source : Source σ ω α} {options : ExportOptions ω} {r t : Run σ ω}

theorem writeEntities_turn (config : Config) (options : ExportOptions ω) (schema : Schema α) (source : Source σ ω α)
    (n : Nat) (r : Run σ ω) :
    (writeEntities config options schema source (n + 1)).on r =
      match (turn config options schema source).on r with
      | (.ok true, t) => (writeEntities config options schema source n).on t
      | (.ok false, t) => (.ok (), t)
      | (.error halt, t) => (.error halt, t) := by
  cases pull : source.next (r.source, r.world) with
  | mk pulled s =>
      rw [writeEntities, ActionOf.on_bind_ok (readSource_on pull), turn, ActionOf.on_bind_ok (readSource_on pull)]
      cases pulled with
      | finished => rfl
      | fault e => rfl
      | entity a =>
          cases wrote : (writeEntity config schema a).on { r with source := s.1, world := s.2 } with
          | mk outcome u =>
              cases outcome with
              | error halt => rw [ActionOf.on_bind_error wrote, ActionOf.on_bind_error wrote]
              | ok =>
                  rw [ActionOf.on_bind_ok wrote, ActionOf.on_bind_ok wrote, ActionOf.on_get_bind, ActionOf.on_get_bind]
                  by_cases full : u.rows % config.flushBatch = 0
                  · rw [if_pos full, if_pos full]
                    cases ended : (endBatch options).on u with
                    | mk outcome v =>
                        cases outcome with
                        | error halt => rw [ActionOf.on_bind_error ended, ActionOf.on_bind_error ended]
                        | ok => rw [ActionOf.on_bind_ok ended, ActionOf.on_bind_ok ended, ActionOf.on_pure]
                  · rw [if_neg full, if_neg full, ActionOf.on_pure]

theorem rows_endBatch (ended : (endBatch options).on r = (.ok (), t)) : t.rows = r.rows := by
  rcases endBatch_cases options r with ⟨halt, u, failed, -⟩ | ⟨u, -, rows, paged⟩
  · cases failed.symm.trans ended
  · have same := paged.symm.trans ended
    split at same
    · cases same
    · cases same
      exact rows

/-- A turn after which the loop goes on has written a row. -/
theorem rows_turn (goesOn : (turn config options schema source).on r = (.ok true, t)) : t.rows = r.rows + 1 := by
  cases pull : source.next (r.source, r.world) with
  | mk pulled s =>
      rw [turn, ActionOf.on_bind_ok (readSource_on pull)] at goesOn
      cases pulled with
      | finished => cases goesOn
      | fault e => cases goesOn
      | entity a =>
          obtain ⟨_, u, wrote, goesOn⟩ := ActionOf.through_of_bind goesOn
          have rows : u.rows = r.rows + 1 := by
            rcases writeEntity_cases config schema a { r with source := s.1, world := s.2 } with
              ⟨v, placed, -, rows⟩ | ⟨halt, v, failed, -⟩
            · cases placed.symm.trans wrote
              exact rows
            · cases failed.symm.trans wrote
          rw [ActionOf.on_get_bind] at goesOn
          split at goesOn
          · obtain ⟨_, v, ended, last⟩ := ActionOf.through_of_bind goesOn
            cases last
            exact (rows_endBatch ended).trans rows
          · cases goesOn
            exact rows

/-- The loop comes to an end, whatever the source does, and only to that of the loop that counts down. -/
theorem readsOn_iff {out : Except Halt Unit × Run σ ω} :
    ReadsOn config options schema source r out ↔
      out = (writeEntities config options schema source (rowLimit config - r.rows)).on r := by
  constructor
  · intro reads
    -- each turn that goes on uses up one of the rows that are left
    have left {rows : Nat} (room : HasRoom config rows) :
        rowLimit config - rows = rowLimit config - (rows + 1) + 1 := by
      have := (hasRoom_iff config rows).mp room
      omega
    induction reads with
    | full noRoom =>
        have none : rowLimit config ≤ _ := Nat.le_of_not_lt (mt (hasRoom_iff config _).mpr noRoom)
        rw [Nat.sub_eq_zero_of_le none]
        rfl
    | finished room ran => rw [left room, writeEntities_turn, ran]
    | failed room ran => rw [left room, writeEntities_turn, ran]
    | next room ran _ ih => rw [left room, writeEntities_turn, ran, ih, rows_turn ran]
  · rintro rfl
    obtain ⟨left, same⟩ : ∃ left, left = rowLimit config - r.rows := ⟨_, rfl⟩
    rw [← same]
    induction left generalizing r with
    | zero => exact .full fun room => Nat.not_le_of_lt ((hasRoom_iff config r.rows).mp room) (by omega)
    | succ n ih =>
        have room : HasRoom config r.rows := (hasRoom_iff config r.rows).mpr (by omega)
        rw [writeEntities_turn]
        cases ran : (turn config options schema source).on r with
        | mk outcome t =>
            cases outcome with
            | error halt => exact .failed room ran
            | ok goesOn =>
                cases goesOn with
                | false => exact .finished room ran
                | true =>
                    have rows := rows_turn ran
                    exact .next room ran (ih (by omega))

end Run

/-! ## What is asked of a feed -/

/-- The same options in a world that has something beside. -/
def ExportOptions.beside {ω τ : Type} (options : ExportOptions ω) : ExportOptions (ω × τ) where
  stopRequested w := options.stopRequested w.1
  listen p w := (options.listen p w.1, w.2)

namespace Feed

variable {ω α : Type}

/-- The feed in a world with a list of the positions that it was asked for. -/
def watched (feed : Feed ω α) : Feed (ω × List Nat) α where
  item := feed.item
  effect n w := (feed.effect n w.1, w.2 ++ [n])
  patience := feed.patience

def wantedAt (feed : Feed ω α) (wanted : α → Bool) (n : Nat) : Bool :=
  match feed.item n with
  | some (.ok a) => wanted a
  | _ => false

/-- A position is right behind the `n`-th wanted entity. -/
def Behind (feed : Feed ω α) (wanted : α → Bool) (n p : Nat) : Prop :=
  (List.range p).countP (feed.wantedAt wanted) = n ∧ (p = 0 ∨ feed.wantedAt wanted (p - 1) = true)

/-- Up to a position there are never more entities in a row that are not wanted than are passed over. -/
def PatientTo (feed : Feed ω α) (wanted : α → Bool) (q : Nat) : Prop :=
  ∀ p k, p + k ≤ q → (∀ i, i < k → feed.wantedAt wanted (p + i) = false) → k ≤ feed.patience

variable {feed : Feed ω α} {wanted : α → Bool} {n m p q k : Nat}

theorem wantedAt_iff : feed.wantedAt wanted n = true ↔ ∃ a, feed.item n = some (.ok a) ∧ wanted a = true := by
  rw [wantedAt]
  split
  · rename_i a item
    simp [item]
  · rename_i other
    simp only [Bool.false_eq_true, false_iff]
    rintro ⟨a, item, -⟩
    exact other a item

theorem countP_range_add (none : ∀ i, i < k → feed.wantedAt wanted (p + i) = false) :
    (List.range (p + k)).countP (feed.wantedAt wanted) = (List.range p).countP (feed.wantedAt wanted) := by
  induction k with
  | zero => rfl
  | succ k ih =>
      rw [← Nat.add_assoc, List.range_succ, List.countP_append, ih fun i lt => none i (Nat.lt_succ_of_lt lt),
        List.countP_singleton, none k (Nat.lt_succ_self k)]
      rfl

theorem countP_range_succ (wants : feed.wantedAt wanted p = true) :
    (List.range (p + 1)).countP (feed.wantedAt wanted) = (List.range p).countP (feed.wantedAt wanted) + 1 := by
  rw [List.range_succ, List.countP_append, List.countP_singleton, wants]
  rfl

namespace Behind

theorem lt (first : feed.Behind wanted n p) (second : feed.Behind wanted m q) (before : p < q) : n < m := by
  have wants := second.2.resolve_left (by omega)
  have counted := second.1
  rw [show q = q - 1 + 1 by omega, countP_range_succ wants] at counted
  have fewer := (List.range_sublist.mpr (show p ≤ q - 1 by omega)).countP_le (p := feed.wantedAt wanted)
  rw [first.1] at fewer
  omega

theorem le (first : feed.Behind wanted n p) (second : feed.Behind wanted m q) (le : n ≤ m) : p ≤ q :=
  Nat.le_of_not_lt fun before => Nat.not_lt_of_le le (second.lt first before)

theorem unique (first : feed.Behind wanted n p) (second : feed.Behind wanted n q) : p = q :=
  Nat.le_antisymm (first.le second (Nat.le_refl n)) (second.le first (Nat.le_refl n))

/-- As long as there are more wanted entities, the next one is found behind some that are not wanted. -/
theorem exists_next (here : feed.Behind wanted n p) (last : feed.Behind wanted m q) (lt : n < m) :
    ∃ k, p + k < q ∧ (∀ i, i < k → feed.wantedAt wanted (p + i) = false) ∧ feed.wantedAt wanted (p + k) = true ∧
      feed.Behind wanted (n + 1) (p + k + 1) := by
  have before : p < q := by
    rcases Nat.lt_or_eq_of_le (here.le last (Nat.le_of_lt lt)) with before | rfl
    · exact before
    · exact absurd (here.1.symm.trans last.1) (Nat.ne_of_lt lt)
  have some_ : ∃ k, feed.wantedAt wanted (p + k) = true :=
    ⟨q - 1 - p, by rw [show p + (q - 1 - p) = q - 1 by omega]; exact last.2.resolve_left (by omega)⟩
  have wants := Nat.find_spec some_
  have none : ∀ i, i < Nat.find some_ → feed.wantedAt wanted (p + i) = false :=
    fun i less => Bool.eq_false_iff.mpr (Nat.find_min some_ less)
  have there : feed.Behind wanted (n + 1) (p + Nat.find some_ + 1) :=
    ⟨by rw [countP_range_succ wants, countP_range_add none, here.1], .inr wants⟩
  have found : p + Nat.find some_ + 1 ≤ q := there.le last lt
  exact ⟨Nat.find some_, by omega, none, wants, there⟩

end Behind

/-- The search for the next wanted entity asks for all positions up to it. -/
theorem advance_watched (passes : ∀ i, i < k → ∃ a, feed.item (p + i) = some (.ok a) ∧ wanted a = false) {a : α}
    (item : feed.item (p + k) = some (.ok a)) (wants : wanted a = true) {steps : Nat} (enough : k < steps) (w : ω) :
    ∃ v, advance wanted feed.watched steps p (w, List.range p) = (.entity a, p + k + 1, v, List.range (p + k + 1)) := by
  induction k generalizing p w steps with
  | zero =>
      obtain ⟨steps, rfl⟩ := Nat.exists_eq_add_of_lt enough
      rw [Nat.add_zero] at item
      refine ⟨feed.effect p w, ?_⟩
      simp [advance, watched, item, wants, List.range_succ]
  | succ k ih =>
      obtain ⟨steps, rfl⟩ : ∃ rest, steps = rest + 1 := ⟨steps - 1, by omega⟩
      obtain ⟨b, first, unwanted⟩ := passes 0 (Nat.succ_pos k)
      rw [Nat.add_zero] at first
      have shift (i : Nat) : p + 1 + i = p + (i + 1) := by omega
      obtain ⟨v, found⟩ := ih (p := p + 1) (fun i lt => by rw [shift]; exact passes (i + 1) (Nat.succ_lt_succ lt))
        (by rw [shift]; exact item) (Nat.lt_of_succ_lt_succ enough) (feed.effect p w)
      refine ⟨v, ?_⟩
      rw [shift] at found
      rw [advance, ← found, List.range_succ]
      simp only [watched, first, unwanted]
      rfl

/-- A stream over a feed that is watched has asked for everything up to the `n`-th wanted entity, and nothing else. -/
def Searching (feed : Feed ω α) (wanted : α → Bool) (n : Nat) (x : FeedState (ω × List Nat) α × ω × List Nat) : Prop :=
  ∃ p handle, x.1.current = some ⟨feed.watched, p, handle, wanted⟩ ∧ x.1.resources.isOpen handle = true ∧
    x.2.2 = List.range p ∧ feed.Behind wanted n p

namespace Searching

variable {x y : FeedState (ω × List Nat) α × ω × List Nat}

theorem opened {name : String} {feeds : Nat → Except ExportError (Feed (ω × List Nat) α)}
    {state : FeedState (ω × List Nat) α} (there : feeds state.calls = .ok feed.watched) (w : ω) :
    ∃ y, (openStream name feeds wanted).on (state, w, []) = (.ok (), y) ∧ feed.Searching wanted 0 y := by
  let tracked := state.resources.track (name ++ "#stream-" ++ toString (state.opened + 1)) none
  have isOpen : tracked.2.isOpen tracked.1 = true := by
    rw [OpenResources.isOpen_track, beq_self_eq_true, Bool.or_true]
  let begun : FeedState (ω × List Nat) α := {
    calls := state.calls + 1
    opened := state.opened + 1
    resources := tracked.2
    current := some ⟨feed.watched, 0, tracked.1, wanted⟩ }
  refine ⟨(begun, w, []), ?_, 0, tracked.1, rfl, isOpen, rfl, rfl, .inl rfl⟩
  simp [openStream, there, tracked, begun]

/-- As long as there are more wanted entities, the stream hands out the next one. -/
theorem next (here : feed.Searching wanted n x) (last : feed.Behind wanted m q)
    (entities : ∀ p, p < q → ∃ a, feed.item p = some (.ok a)) (patient : feed.PatientTo wanted q) (lt : n < m) :
    (∃ a, (nextOf x).1 = .entity a ∧ wanted a = true) ∧ feed.Searching wanted (n + 1) (nextOf x).2 := by
  obtain ⟨s, w, asked⟩ := x
  obtain ⟨p, handle, current, isOpen, rfl, behind⟩ := here
  dsimp only at current isOpen
  obtain ⟨k, before, none, wants, there⟩ := behind.exists_next last lt
  obtain ⟨a, item, wantsIt⟩ := wantedAt_iff.mp wants
  have passes (i : Nat) (less : i < k) : ∃ b, feed.item (p + i) = some (.ok b) ∧ wanted b = false := by
    obtain ⟨b, entity⟩ := entities (p + i) (by omega)
    refine ⟨b, entity, Bool.eq_false_iff.mpr fun wantsOther => ?_⟩
    exact Bool.false_ne_true ((none i less).symm.trans (wantedAt_iff.mpr ⟨b, entity, wantsOther⟩))
  obtain ⟨v, found⟩ := advance_watched passes item wantsIt
    (Nat.lt_succ_of_le (patient p k (Nat.le_of_lt before) none)) w
  have read : nextOf (s, w, List.range p) = (.entity a,
      { s with current := some ⟨feed.watched, p + k + 1, handle, wanted⟩ }, v, List.range (p + k + 1)) := by
    have found : advance wanted feed.watched (feed.watched.patience + 1) p (w, List.range p) = _ := found
    simp only [nextOf, current, isOpen, if_true, found]
  rw [read]
  exact ⟨⟨a, rfl, wantsIt⟩, p + k + 1, handle, rfl, isOpen, rfl, there⟩

/-- Whoever listens to an export, what it has asked for goes up to the last entity that it was handed. -/
theorem pulled {options : ExportOptions ω} {source : Source (FeedState (ω × List Nat) α) (ω × List Nat) α}
    (reads : source.next = nextOf) (here : feed.Searching wanted 0 x) (last : feed.Behind wanted m q)
    (entities : ∀ p, p < q → ∃ a, feed.item p = some (.ok a)) (patient : feed.PatientTo wanted q)
    (pulled : Run.Pulled source options.beside x n y) (le : n ≤ m) : feed.Searching wanted n y := by
  induction pulled with
  | begun => exact here
  | next _ ih =>
      rw [reads]
      exact ((ih (Nat.le_of_succ_le le)).next last entities patient le).2
  | heard p _ ih => exact ih le

/-- However the reading ends, nothing was asked for behind as many wanted entities as there may be rows; and for nothing
    less if it came through or has written so many rows. -/
theorem asked {config : Config} {schema : Schema α} {options : ExportOptions ω}
    {source : Source (FeedState (ω × List Nat) α) (ω × List Nat) α} {spillDisk : Except IoFault Disk} {pulls : Nat}
    {outcome : Except Halt Unit} (reads : source.next = nextOf) (begun : feed.Searching wanted 0 x)
    (last : feed.Behind wanted m q)
    (entities : ∀ p, p < q → ∃ a, feed.item p = some (.ok a)) (patient : feed.PatientTo wanted q)
    (ends : Run.ReadingEnd config schema source options.beside spillDisk x m n pulls outcome)
    (pulled : Run.Pulled source options.beside x pulls y) :
    ∃ p, y.2.2 = List.range p ∧ p ≤ q ∧ (outcome = .ok () ∨ n = m → p = q) := by
  obtain ⟨p, _, _, _, asked, behind⟩ := begun.pulled reads last entities patient pulled ends.pulls_le
  have whole (full : n = m) : p = q := behind.unique (ends.pulls_of_full full ▸ last)
  refine ⟨p, asked, behind.le last ends.pulls_le, fun ended => ?_⟩
  rcases ended with rfl | full
  · rcases ends.through with full | ⟨lt, finished⟩
    · exact whole full
    · have there := begun.pulled reads last entities patient
        (Run.course_pulled source options.beside config.flushBatch x n) (Nat.le_of_lt lt)
      obtain ⟨⟨a, entity, -⟩, -⟩ := there.next last entities patient lt
      rw [reads] at finished
      cases finished.symm.trans entity
  · exact whole full

end Searching

end Feed

theorem Run.rowLimit_pos (config : Config) : 0 < Run.rowLimit config := by
  have positive := config.maxRows_pos
  rw [Run.rowLimit]
  cases most : config.maxRows with
  | none => decide
  | some limit =>
      have : limit ≠ 0 := fun zero => positive (by rw [most, zero])
      have : 1 ≤ rowIndexLimit - 1 := by decide
      simp only [Option.getD_some]
      omega

/-- Of a feed with as many wanted entities as there may be rows, an export asks for everything up to the last of them
    at most, and for no less if it succeeds or has written so many rows. -/
theorem Feed.asked_of_export [RegexEngine] [Gzip] [Zip] [LawfulGzip] {ω α : Type} (config : Config)
    (options : ExportOptions ω) (schema : Schema α) (name : String) {feeds : Nat → Except ExportError (Feed ω α)}
    {fields : α → String → Option CellValue} {filter : Filter} {tests : List (String × Test)} {feed : Feed ω α}
    {q : Nat} (now : Timestamp) (state : FeedState (ω × List Nat) α) (world : ω) (output : Sink)
    (spillDisk : Except IoFault Disk) (compiled : filter.compile = .ok tests) (there : feeds state.calls = .ok feed)
    (entities : ∀ p, p < q → ∃ a, feed.item p = some (.ok a))
    (last : feed.Behind (fun a => Filter.passes tests (fields a)) (Run.rowLimit config) q)
    (patient : feed.PatientTo (fun a => Filter.passes tests (fields a)) q) :
    let source := Feed.source name (fun k => (feeds k).map Feed.watched) (some fields)
    let run := exportTo config options.beside schema source (some filter) now state (world, []) output spillDisk
    ∃ p, run.2.world.2 = List.range p ∧ p ≤ q ∧ (run.1 = .ok () ∨ run.2.rows = Run.rowLimit config → p = q) := by
  intro source run
  have reading := Run.exportRows_reads config options.beside schema source (some filter) now state (world, []) output
    spillDisk
  have watched : (feeds state.calls).map Feed.watched = .ok feed.watched := by rw [there]; rfl
  obtain ⟨y, opened, begun⟩ : ∃ y, (source.opening (some filter)).on
      (state, options.beside.listen ⟨.starting, 0, 0⟩ (world, [])) = (.ok (), y) ∧
        feed.Searching (fun a => Filter.passes tests (fields a)) 0 y := by
    simp only [source, Source.opening, Feed.source, compiled]
    exact Feed.Searching.opened watched _
  cases ran : (Run.exportRows config options.beside schema source (some filter) now).on
      (.start config state (world, []) output spillDisk) with
  | mk outcome r =>
      have result : run = (outcome, r.finish source) := exportTo_of_rows ran
      rw [ran] at reading
      rw [result]
      change ∃ p, r.world.2 = List.range p ∧ p ≤ q ∧ (outcome = .ok () ∨ r.rows = Run.rowLimit config → p = q)
      cases reading with
      | refused place rows =>
          refine ⟨0, ?_, Nat.zero_le q, fun ended => ?_⟩
          · rw [show r.world = _ from congrArg Prod.snd place]
            rfl
          · rcases ended with through | full
            · cases through
            · have := Run.rowLimit_pos config
              omega
      | unopened failed => cases failed.symm.trans opened
      | broken opens ends pulled =>
          cases opens.symm.trans opened
          exact begun.asked rfl last entities patient ends pulled
      | through opens ends pulled =>
          cases opens.symm.trans opened
          obtain ⟨p, asked, le, whole⟩ := begun.asked rfl last entities patient ends pulled
          exact ⟨p, asked, le, fun _ => whole (.inl rfl)⟩

/-- An export uses its source as if nobody kept a log, and the log shows how many entities it has asked for. If it
    stops at the limit, because somebody asked it to or because a batch cannot be flushed, they are as many as the
    rows that it wrote; if the stream ends or something else fails once it is open, there is one more; and there are
    never more than the limit. The loop comes to an end for any source, though nothing but the two limits bounds it.
    Of a feed whose entities are filtered, an export that has written as many rows as it may, or has succeeded, has
    asked for everything up to the last entity that it wrote and for nothing behind it. -/
theorem export_never_reads_ahead [RegexEngine] [Gzip] [Zip] [LawfulGzip] {α σ ω : Type} (config : Config)
    (options : ExportOptions ω) (schema : Schema α) (source : Source σ ω α) (filter : Option Filter) (now : Timestamp)
    (own : σ) (log : List SourceCall) (world : ω) (output : Sink) (spillDisk : Except IoFault Disk) :
    let run := exportTo config options schema source.logged filter now (own, log) world output spillDisk
    let limit := min (config.maxRows.getD 1048574) 1048574
    let opened := (source.opening filter).on (own, options.listen ⟨.starting, 0, 0⟩ world)
    let pull := (source.next (Run.course source options config.flushBatch opened.2 run.2.rows)).1
    exportTo config options schema source filter now own world output spillDisk = (run.1, run.2.viewed Prod.fst) ∧
    (∃ calls, run.2.source.2 = log ++ calls ++ [.close] ∧
      ((∃ e, run.1 = .error (.error e) ∧ run.2.rows = 0 ∧
          (calls = [] ∨ calls = [.opening filter] ∧ opened.1 = .error e)) ∨
        ∃ pulls, calls = .opening filter :: List.replicate pulls .next ∧ pulls ≤ limit ∧
          ((pulls = run.2.rows ∧ (run.2.rows = limit ∨
              Run.StopsAt source options config.flushBatch opened.2 run.2.rows ∧ run.1 = .error (.error .cancelled) ∨
              run.2.rows % config.flushBatch = 0 ∧ spillDisk ≠ .ok .sound ∧
                ∃ fault, run.1 = .error (.error (.io fault)))) ∨
            (pulls = run.2.rows + 1 ∧ run.2.rows < limit ∧ (pull = .finished ∨ ∃ halt, run.1 = .error halt ∧
              ((∃ e, pull = .fault e ∧ halt = .error (Run.streamFault run.2.rows e)) ∨
                (∃ a, pull = .entity a ∧ schema.valuesAt (run.2.rows + 1) a = .error halt) ∨
                ∃ a fault, pull = .entity a ∧ spillDisk ≠ .ok .sound ∧ halt = .error (.io fault))))))) ∧
    (∀ r out, Run.ReadsOn config options schema source r out ↔
      out = (Run.writeEntities config options schema source (limit - r.rows)).on r) ∧
    ∀ name (feeds : Nat → Except ExportError (Feed ω α)) (fields : α → String → Option CellValue) (filter : Filter)
      tests feed q state,
      let wanted (a : α) := Filter.passes tests (fields a)
      filter.compile = .ok tests → feeds state.calls = .ok feed →
      (∀ p, p < q → ∃ a, feed.item p = some (.ok a)) → feed.Behind wanted limit q → feed.PatientTo wanted q →
      let run := exportTo config options.beside schema
        (Feed.source name (fun k => (feeds k).map Feed.watched) (some fields)) (some filter) now state (world, [])
        output spillDisk
      ∃ p, run.2.world.2 = List.range p ∧ p ≤ q ∧ (run.1 = .ok () ∨ run.2.rows = limit → p = q) := by
  intro run limit opened pull
  obtain ⟨calls, logged, reading⟩ : ∃ calls, run.2.source.2 = log ++ calls ++ [.close] ∧
      Run.LoggedReading config schema source options spillDisk filter (own, options.listen ⟨.starting, 0, 0⟩ world) output
        calls run := exportTo_reads config options schema source filter now own log world output spillDisk
  refine ⟨exportTo_shows source.logged_shows config options schema filter now (own, log) world output spillDisk,
    ⟨calls, logged, ?_⟩, fun _ _ => Run.readsOn_iff, ?_⟩
  · clear_value run
    cases reading with
    | @unread _ e r unopened rows => exact .inl ⟨e, rfl, rows, unopened⟩
    | broken opens ends =>
        obtain rfl := congrArg Prod.snd opens
        refine .inr ⟨_, rfl, ends.pulls_le, ?_⟩
        rcases ends.counted with ⟨asked, why⟩ | ⟨asked, lt, why⟩
        · exact .inl ⟨asked, why.imp_left And.left⟩
        · exact .inr ⟨asked, lt, why.imp_left And.left⟩
    | through opens ends =>
        obtain rfl := congrArg Prod.snd opens
        refine .inr ⟨_, rfl, ends.pulls_le, ?_⟩
        rcases ends.through with full | ⟨lt, finished⟩
        · exact .inl ⟨(ends.pulls_of_full full).trans full.symm, .inl full⟩
        · rcases ends.counted with ⟨-, ⟨full, -⟩ | ⟨-, failed⟩ | ⟨-, -, _, failed⟩⟩ | ⟨asked, -⟩
          · exact absurd full (Nat.ne_of_lt lt)
          · cases failed
          · cases failed
          · exact .inr ⟨asked, lt, .inl finished⟩
  · intro name feeds fields filter tests feed q state wanted compiled there entities last patient
    exact Feed.asked_of_export config options schema name now state world output spillDisk compiled there entities last
      patient

def silent : ExportOptions Unit := ⟨fun _ => false, fun _ w => w⟩

/-- The header is written to it and flushed, and then it is full. -/
def crampedDisk : Disk := ⟨fun n => if n < 2 then none else some ⟨0, .outputFull⟩⟩

def unopenedNames : Source (Feed.Reading Unit String) Unit String :=
  Feed.plainSource "feed" (.error (.dataSource none "gone" none))

def SourceCall.isNext : SourceCall → Bool
  | next => true
  | _ => false

/-- Two exports that fail without having asked for more than they wrote: the batch of the first row cannot be flushed, and
    the stream cannot be opened. -/
theorem failures_without_another_call :
    let unflushed := exportTo narrow silent names (Feed.plainSource "feed" (.ok endlessNames)).logged none midnight
      (none, []) () .unlimited (.ok crampedDisk)
    let unopened := exportTo narrow silent names unopenedNames.logged none midnight (none, []) () .unlimited
    (unflushed.1 = .error (.error (.io .outputFull)) ∧ unflushed.2.rows = 1 ∧
        unflushed.2.source.2.countP SourceCall.isNext = 1) ∧
      unopened.1 = .error (.error (.dataSource none "gone" none)) ∧ unopened.2.rows = 0 ∧
        unopened.2.source.2.countP SourceCall.isNext = 0 := by
  decide +kernel

/-- An endless feed of which all entities but the first are wanted. -/
def manyNames : Feed Unit String := .endless (fun n => if n = 0 then "a" else "b") 1

def nameTests : List (String × Test) := [("Name", .equals (.text "b"))]

def isWantedName (s : String) : Bool := Filter.passes nameTests fun _ => some (.text s)

theorem isWantedName_iff {s : String} : isWantedName s = true ↔ s = "b" := by
  simp [isWantedName, Filter.passes, nameTests, Test.holds, CellValue.matchesValue, CellValue.order]

theorem manyNames_wantedAt (n : Nat) : manyNames.wantedAt isWantedName n = (n != 0) := by
  cases n with
  | zero => decide +kernel
  | succ n => simpa [Feed.wantedAt, manyNames, Feed.endless] using isWantedName_iff.mpr rfl

theorem manyNames_behind (n : Nat) : manyNames.Behind isWantedName (n + 1) (n + 2) := by
  refine ⟨?_, .inr (manyNames_wantedAt (n + 1))⟩
  induction n with
  | zero => decide +kernel
  | succ n ih => rw [Feed.countP_range_succ (manyNames_wantedAt (n + 2)), ih]

theorem manyNames_patientTo (q : Nat) : manyNames.PatientTo isWantedName q := by
  intro p k _ none
  refine Nat.le_of_not_lt fun many => ?_
  have unwanted := none 1 many
  rw [manyNames_wantedAt] at unwanted
  simp at unwanted

def manyFeeds (_ : Nat) : Except ExportError (Feed Unit String) := .ok manyNames

def nameField (s _field : String) : Option CellValue := some (.text s)

def onlyB : Filter := Filter.ofList [("Name", .scalar (.text "b"))]

def manyNamesSource : Source (FeedState (Unit × List Nat) String) (Unit × List Nat) String :=
  Feed.source "feed" (fun k => (manyFeeds k).map Feed.watched) (some nameField)

theorem manyNames_yields {y : FeedState (Unit × List Nat) String × Unit × List Nat}
    (begun : manyNames.Searching isWantedName 0 y) : manyNamesSource.Yields silent.beside (fun _ => some "b") y := by
  refine ⟨manyNames.Searching isWantedName, begun, fun n t here => ?_⟩
  obtain ⟨⟨a, entity, wants⟩, there⟩ := here.next (manyNames_behind n) (fun p _ => ⟨_, rfl⟩)
    (manyNames_patientTo (n + 2)) (Nat.lt_succ_self n)
  obtain rfl := isWantedName_iff.mp wants
  refine ⟨fun a item => ?_, fun noneLeft => (nomatch noneLeft), fun _ => here, rfl⟩
  cases item
  exact ⟨entity, there⟩

theorem onlyB_compile : onlyB.compile = .ok nameTests := rfl

theorem manyNames_opened : ∃ y, (manyNamesSource.opening (some onlyB)).on (.initial, (), []) = (.ok (), y) ∧
    manyNames.Searching isWantedName 0 y := by
  simp only [manyNamesSource, Source.opening, Feed.source, onlyB_compile]
  exact Feed.Searching.opened rfl ()

theorem manyNames_succeeds :
    (exportTo narrow silent.beside names manyNamesSource (some onlyB) midnight .initial ((), []) .unlimited).1 =
      .ok () := by
  obtain ⟨y, opened, begun⟩ := manyNames_opened
  have title : mendSheetName names.sheetName = "S" := by decide
  have found : names.tableOf 1 (firstItems (fun _ => some "b") (Run.rowLimit narrow)) =
      .ok [[.text "b"], [.text "b"]] := rfl
  have formats : (Xml.render (narrow.look.styleSheet names [[.text "b"], [.text "b"]]).tokens).toUTF8.size ≤
      Zip.smallLimit := by decide +kernel
  exact (exportTo_yields narrow silent.beside names manyNamesSource (some onlyB) midnight .initial ((), []) .unlimited
    (by decide) opened (manyNames_yields begun) ⟨rfl, rfl⟩ found (title.symm ▸ partsBefore_small formats)).1

/-- Two rows are written of the feed, and only the three entities up to the second of them were asked for. -/
theorem export_never_reads_ahead_filtered :
    let run := exportTo narrow silent.beside names manyNamesSource (some onlyB) midnight .initial ((), []) .unlimited
    run.1 = .ok () ∧ run.2.world.2 = [0, 1, 2] := by
  obtain ⟨p, asked, -, all⟩ := (export_never_reads_ahead narrow silent names (Feed.plainSource "feed" (.ok manyNames))
    none midnight none [] () .unlimited (.ok .sound)).2.2.2 "feed" manyFeeds nameField onlyB nameTests manyNames 3
    .initial onlyB_compile rfl (fun p _ => ⟨_, rfl⟩) (manyNames_behind 1) (manyNames_patientTo 3)
  rw [← manyNamesSource] at asked all
  rw [all (.inl manyNames_succeeds)] at asked
  exact ⟨manyNames_succeeds, asked⟩

end SheetExport
