import SheetExport.Proofs.Sheet.Contents
import SheetExport.Proofs.Sheet.StoredGzip

/-! # Paging refines an unbounded sheet

Of the rows of a sheet the older ones are in its spill and the newer ones in memory. A call that comes through adds its
own row and loses none, wherever the boundary between the two places lies and whether or not the spill is finished.
Once it is, paging out fails, and the oldest row in memory is gone.
-/

namespace SheetExport.Window

open Xml

section

variable [Gzip]

/-- What is done to a sheet to fill it. -/
inductive Call where
  | append (index : Nat) (cells : List Cell)
  | pageOut (keep : Nat)

namespace Call

def act : Call → Action Window Unit
  | append index cells => Window.append index cells
  | pageOut keep => Window.pageOut keep

/-- The row that comes with a call, if there is one. -/
def rows : Call → List Row
  | append index cells => [⟨index, cells⟩]
  | pageOut _ => []

/-- The greatest number of rows in memory after a call, for a sheet that may keep so many. -/
def bound (capacity : Nat) : Call → Nat
  | append _ _ => capacity
  | pageOut keep => keep

/-- The sheet once the row that comes with a call is in memory. -/
def enter (w : Window) : Call → Window
  | append index cells => w.add ⟨index, cells⟩
  | pageOut _ => w

/-- The rows that a call from one sheet to another has moved to the spill: as many of the oldest ones in memory as were
    counted there. -/
def moved (c : Call) (w v : Window) : List Row := (c.enter w).resident.take (v.spilledRows - w.spilledRows)

end Call

variable {disk : Disk} {w v : Window} {c : Call} {spilled : List Row} {finished : Bool}

@[simp] theorem Call.resident_enter (c : Call) (w : Window) : (c.enter w).resident = w.resident ++ c.rows := by
  cases c with
  | append index cells => rfl
  | pageOut keep => rw [rows, List.append_nil, enter]

@[simp] theorem Call.capacity_enter (c : Call) (w : Window) : (c.enter w).capacity = w.capacity := by
  cases c <;> rfl

/-! ## Calls -/

theorem onSpill_disposed {α : Type} {a : Action Spill α} (gone : w.spill = none) :
    (onSpill a).on w = (.error (SheetFault.disposed w.name).toError, w) := by
  rw [onSpill, ActionOf.on_of, gone]

theorem pageOut_disposed (keep : Nat) (gone : w.spill = none) :
    (pageOut keep).on w = (.error (SheetFault.disposed w.name).toError, w) := by
  rw [pageOut, ActionOf.on_bind_error (onSpill_disposed gone)]

/-- A finished spill takes no row, and the one that was on its way is in neither place any more. -/
theorem pageRow_finished {spill : Spill} {r : Row} {rest : List Row} (held : w.spill = some spill)
    (finished : spill.finished = true) (resident : w.resident = r :: rest) :
    pageRow.on w = (.error (.write "spill file already finished"), { w with resident := rest }) := by
  rw [pageRow, ActionOf.on_get_bind, resident]
  have refused := onSpill_on (w := { w with resident := rest }) (a := Spill.demandUnfinished) held
    (Spill.onWriter_finished finished)
  exact (ActionOf.on_bind_error refused _).trans (by rw [← held])

theorem pageOut_finished {spill : Spill} (keep : Nat) (held : w.spill = some spill)
    (finished : spill.finished = true) :
    (pageOut keep).on w =
      if keep < w.resident.length then
        (.error (.write "spill file already finished"), { w with resident := w.resident.tail })
      else (.ok (), w) := by
  rw [pageOut, ActionOf.on_bind_ok (look_on held), ActionOf.on_get_bind]
  cases paged : w.resident.length - keep with
  | zero =>
      rw [if_neg (by omega), pageRows, ActionOf.on_bind_ok (ActionOf.on_pure () w),
        ask_on held (Spill.flush_finished finished)]
  | succ n =>
      cases resident : w.resident with
      | nil => simp [resident] at paged
      | cons r rest =>
          have lost := pageRow_finished held finished resident
          rw [← resident, if_pos (by omega), pageRows,
            ActionOf.on_bind_error (ActionOf.on_bind_error lost fun _ => pageRows n), resident]
          rfl

/-- What an append does once its row is in memory. -/
theorem append_through {index : Nat} {cells : List Cell} (ran : (append index cells).on w = (.ok (), v)) :
    w.refusal? index cells = none ∧
      (w.capacity < w.resident.length + 1 ∧ (pageOut w.capacity).on (w.add ⟨index, cells⟩) = (.ok (), v) ∨
        w.resident.length + 1 ≤ w.capacity ∧ v = w.add ⟨index, cells⟩) := by
  cases refusal : w.refusal? index cells with
  | some fault =>
      rw [append_refused refusal] at ran
      cases congrArg Prod.fst ran
  | none =>
      rw [append_accepted refusal] at ran
      split at ran
      · exact ⟨rfl, .inl ⟨‹_›, ran⟩⟩
      · cases ran
        exact ⟨rfl, .inr ⟨by omega, rfl⟩⟩

/-! ## Runs of calls -/

def run : List Call → Action Window Unit
  | [] => pure ()
  | c :: calls => do
      c.act
      run calls

/-- The rows of all appends among some calls, in their order. -/
def appended (calls : List Call) : List Row := calls.flatMap Call.rows

theorem run_cons {c : Call} {calls : List Call} (ran : (run (c :: calls)).on w = (.ok (), v)) :
    ∃ u, c.act.on w = (.ok (), u) ∧ (run calls).on u = (.ok (), v) := by
  rw [run, ActionOf.on_bind] at ran
  cases step : c.act.on w with
  | mk outcome u =>
      rw [step] at ran
      cases outcome with
      | error e => cases congrArg Prod.fst ran
      | ok _ => exact ⟨u, rfl, ran⟩

/-- Calls that come through do so up to each of them. -/
theorem run_split {done rest : List Call} (ran : (run (done ++ rest)).on w = (.ok (), v)) :
    ∃ u, (run done).on w = (.ok (), u) ∧ (run rest).on u = (.ok (), v) := by
  induction done generalizing w with
  | nil => exact ⟨w, rfl, ran⟩
  | cons c done ih =>
      obtain ⟨t, first, ran⟩ := run_cons ran
      obtain ⟨u, ran, last⟩ := ih ran
      exact ⟨u, (ActionOf.on_bind_ok first _).trans ran, last⟩

theorem headTokens_end (w : Window) : ∃ before, render w.headTokens = before ++ "<sheetData>" := by
  rw [headTokens, render_append]
  exact ⟨_, rfl⟩

/-! ## What comes through -/

variable [LawfulGzip]

variable {ω : Type} [Output ω] {H : ByteArray → ω → Prop}

/-- Paging out moves rows from memory to the spill and changes nothing else. -/
theorem pageOut_through {keep : Nat} (h : Holds disk w spilled finished) (ran : (pageOut keep).on w = (.ok (), v)) :
    w.Relieved (w.resident.length - keep) v ∧
      Holds disk v (spilled ++ w.resident.take (w.resident.length - keep)) finished := by
  cases finished with
  | false => exact (pageOut_comes keep h).of_through ran
  | true =>
      have ⟨spill, held, finish, _⟩ := h
      rw [pageOut_finished keep held finish] at ran
      split at ran
      · cases ran
      · cases ran
        rw [Nat.sub_eq_zero_of_le (Nat.le_of_not_lt ‹_›), List.take_zero, List.append_nil]
        exact ⟨⟨spill, w.letters, by rw [List.drop_zero, ← held]⟩, h⟩

/-- Some of the rows in memory are in the spill now, and no more are left there than may be. -/
theorem Call.act_relieves (h : Holds disk w spilled finished) (ran : c.act.on w = (.ok (), v)) :
    ∃ n, (c.enter w).Relieved n v ∧ Holds disk v (spilled ++ (c.enter w).resident.take n) finished ∧
      v.resident.length ≤ c.bound w.capacity := by
  cases c with
  | pageOut keep =>
      obtain ⟨paged, held⟩ := pageOut_through h ran
      refine ⟨_, paged, held, ?_⟩
      rw [paged.resident, List.length_drop, bound]
      omega
  | append index cells =>
      obtain ⟨-, ⟨-, ran⟩ | ⟨few, rfl⟩⟩ := append_through ran
      · obtain ⟨paged, held⟩ := pageOut_through (w := w.add ⟨index, cells⟩) h ran
        refine ⟨_, paged, held, ?_⟩
        rw [paged.resident, List.length_drop, bound]
        omega
      · have ⟨spill, held, _⟩ := h
        refine ⟨0, ⟨spill, w.letters, by rw [List.drop_zero, ← held]; rfl⟩, ?_, ?_⟩
        · rwa [List.take_zero, List.append_nil]
        · rwa [Window.add, List.length_append, List.length_singleton]

/-- A call that comes through adds its row and leaves no more rows in memory than it may. -/
theorem Call.act_through (h : Holds disk w spilled finished) (ran : c.act.on w = (.ok (), v)) :
    Holds disk v (spilled ++ c.moved w v) finished ∧
      spilled ++ c.moved w v ++ v.resident = spilled ++ w.resident ++ c.rows ∧
      v.resident.length ≤ c.bound w.capacity ∧ v.capacity = w.capacity ∧ v.rowCount = (c.enter w).rowCount := by
  obtain ⟨n, paged, held, few⟩ := act_relieves h ran
  have moved : c.moved w v = (c.enter w).resident.take n := by
    rw [Call.moved, held.spilledRows, h.spilledRows, List.length_append, Nat.add_sub_cancel_left, List.length_take,
      ← List.take_eq_take_min]
  refine ⟨moved ▸ held, ?_, few, paged.capacity.trans (c.capacity_enter w), paged.rowCount⟩
  rw [moved, paged.resident, List.append_assoc, List.take_append_drop, resident_enter, List.append_assoc]

theorem run_holds {calls : List Call} (h : Holds disk w spilled finished) (ran : (run calls).on w = (.ok (), v)) :
    ∃ spilled', Holds disk v spilled' finished ∧
      spilled' ++ v.resident = spilled ++ w.resident ++ appended calls ∧ v.capacity = w.capacity := by
  induction calls generalizing w spilled with
  | nil =>
      obtain rfl : w = v := congrArg Prod.snd ran
      exact ⟨spilled, h, by simp [appended], rfl⟩
  | cons c calls ih =>
      obtain ⟨u, first, ran⟩ := run_cons ran
      obtain ⟨held, rows, -, same, -⟩ := Call.act_through h first
      obtain ⟨spilled', held, rows', same'⟩ := ih held ran
      refine ⟨spilled', held, ?_, same'.trans same⟩
      rw [rows', rows, appended, appended, List.flatMap_cons, List.append_assoc]

/-- Whatever calls come through on a fresh sheet, and however few rows it keeps in memory, the worksheet has the rows
    of all of them, each once and in their order; on a sound disk it is written. After each call no more rows are in
    memory than may be, and all rows so far are there or in the spill. -/
theorem paging_keeps_every_row (name : String) (capacity : Nat) (compressed : Bool) (disk : Disk) {calls : List Call}
    (ran : (run calls).on (create name capacity compressed disk) = (.ok (), w)) (all : TakesAll H) {taken : ByteArray}
    {s : ω} (ready : H taken s) :
    (∃ before, render w.headTokens = before ++ "<sheetData>" ∧
      writePart.ComesTo (w, s) (disk ≠ .sound) fun _ x =>
        H (taken ++ (before ++ "<sheetData>" ++ Row.textOf (appended calls) ++ "</sheetData></worksheet>").toUTF8) x.2) ∧
    ∀ done c rest, calls = done ++ c :: rest →
      ∃ u, (run (done ++ [c])).on (create name capacity compressed disk) = (.ok (), u) ∧
        u.resident.length ≤ c.bound (max capacity 1) ∧
        u.spilledRows + u.resident.length = (appended (done ++ [c])).length := by
  have fresh := holds_create name capacity compressed disk
  constructor
  · obtain ⟨before, head⟩ := headTokens_end w
    obtain ⟨spilled, held, rows, -⟩ := run_holds fresh ran
    have text : w.partText spilled =
        before ++ "<sheetData>" ++ Row.textOf (appended calls) ++ "</sheetData></worksheet>" := by
      rw [partText, head, rows, tailText, ← String.append_assoc]
      rfl
    refine ⟨before, head, ?_⟩
    rw [← text]
    exact (writePart_comes all.takes held ready).imp (Or.resolve_right · not_false) fun _ _ => And.right
  · intro done c rest split
    rw [split, List.append_cons] at ran
    obtain ⟨u, through, _⟩ := run_split ran
    obtain ⟨t, begun, last⟩ := run_split through
    obtain ⟨t', step, nothing⟩ := run_cons last
    obtain rfl : t' = u := congrArg Prod.snd nothing
    obtain ⟨_, held, _, same⟩ := run_holds fresh begun
    obtain ⟨-, -, few, -⟩ := Call.act_through held step
    obtain ⟨_, held, rows, -⟩ := run_holds fresh through
    rw [same] at few
    refine ⟨t', through, few, ?_⟩
    rw [held.spilledRows, ← List.length_append, rows]
    rfl

end

/-- Rows with gaps between them, paged out as they come, at once and not at all. -/
theorem paging_keeps_every_row_gaps :
    let calls : List Call := [.append 0 [⟨.text "a & b", 0⟩], .append 1 [], .append 5 [⟨.int 3, 0⟩, ⟨.empty, 0⟩],
      .pageOut 0, .append 7 [⟨.empty, 2⟩]]
    ∃ w before v t, (run calls).on (create "S" 0 true) = (.ok (), w) ∧
      writePart.on (w, Sink.unlimited) = (.ok (), v, t) ∧
      Sink.Open (.empty ++ (before ++ "<sheetData>" ++ Row.textOf (appended calls) ++
        "</sheetData></worksheet>").toUTF8) t := by
  intro calls
  have through : ((run calls).on (create "S" 0 true)).1.isOk = true := by decide +kernel
  cases ran : (run calls).on (create "S" 0 true) with
  | mk outcome w =>
      cases outcome with
      | error e => simp [ran, Except.isOk, Except.toBool] at through
      | ok _ =>
          obtain ⟨⟨before, _, writes⟩, -⟩ :=
            paging_keeps_every_row "S" 0 true .sound ran Sink.takesAll (s := Sink.unlimited) ⟨rfl, rfl, rfl⟩
          obtain ⟨_, ⟨v, t⟩, wrote, written⟩ := writes.through (not_not_intro rfl)
          exact ⟨w, before, v, t, rfl, wrote, written⟩

end SheetExport.Window
