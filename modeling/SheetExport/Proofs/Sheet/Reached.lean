import Mathlib.Tactic.ByContra
import SheetExport.Proofs.Sheet.Paging

/-! # Sheets that calls lead to

`Reached` is every sheet that comes of a fresh one by calls, whether they come through or fail, by writing the worksheet
to any output and by disposal. A call that fails is refused, and then it was nothing; or it fails after it has begun,
and what it has done stays: it lapses if the spill does not take rows any more, and else it was the disk that failed.
`Traced` follows the rows of a sheet along such a course. As long as the disk does not fail, they are the rows of the
calls that came through until the first call lapses, and never again after it.
-/

namespace SheetExport.Window

open Xml

variable {rows held : List Row} {lapses : Nat}

/-- The rows that a sheet holds, compared with those whose calls came through. -/
structure Traced (rows : List Row) (lapses : Nat) (held : List Row) (rowCount : Nat) : Prop where
  ordered : held.Pairwise fun r s => r.index < s.index
  below : ∀ r ∈ held, r.index < rowCount
  whole : lapses = 0 → held = rows
  lost : lapses ≠ 0 → ∃ r ∈ rows, r.index < rowCount ∧ r ∉ held

namespace Traced

variable {rowCount : Nat}

theorem held_eq_iff (h : Traced rows lapses held rowCount) : held = rows ↔ lapses = 0 := by
  constructor
  · intro same
    by_contra some
    obtain ⟨r, inside, _, outside⟩ := h.lost some
    exact outside (same ▸ inside)
  · exact h.whole

theorem pairwise_add (h : Traced rows lapses held rowCount) {r : Row} (next : rowCount ≤ r.index) :
    (held ++ [r]).Pairwise fun r s => r.index < s.index := by
  refine List.pairwise_append.mpr ⟨h.ordered, List.pairwise_singleton _ r, fun s inside t last => ?_⟩
  obtain rfl := List.mem_singleton.mp last
  exact Nat.lt_of_lt_of_le (h.below s inside) next

theorem below_add (h : Traced rows lapses held rowCount) {r : Row} (next : rowCount ≤ r.index) :
    ∀ s ∈ held ++ [r], s.index < r.index + 1 := by
  intro s inside
  cases List.mem_append.mp inside with
  | inl old =>
      have := h.below s old
      omega
  | inr new =>
      obtain rfl := List.mem_singleton.mp new
      omega

/-- A row that was lost is not the next one. -/
theorem lost_add (h : Traced rows lapses held rowCount) {r : Row} (next : rowCount ≤ r.index) (some : lapses ≠ 0) :
    ∃ s ∈ rows, s.index < r.index + 1 ∧ s ∉ held ++ [r] := by
  obtain ⟨s, inside, before, outside⟩ := h.lost some
  refine ⟨s, inside, by omega, ?_⟩
  rw [List.mem_append, List.mem_singleton, not_or]
  refine ⟨outside, ?_⟩
  rintro rfl
  omega

theorem add (h : Traced rows lapses held rowCount) {r : Row} (next : rowCount ≤ r.index) :
    Traced (rows ++ [r]) lapses (held ++ [r]) (r.index + 1) where
  ordered := h.pairwise_add next
  below := h.below_add next
  whole none := by rw [h.whole none]
  lost some := by
    obtain ⟨s, inside, rest⟩ := h.lost_add next some
    exact ⟨s, List.mem_append_left _ inside, rest⟩

/-- The row of a call that lapses is kept without having been let in. -/
theorem add_unnoted (h : Traced rows lapses held rowCount) {r : Row} (next : rowCount ≤ r.index) (some : lapses ≠ 0) :
    Traced rows lapses (held ++ [r]) (r.index + 1) where
  ordered := h.pairwise_add next
  below := h.below_add next
  whole none := absurd none some
  lost some := h.lost_add next some

theorem drop {before rest : List Row} {r : Row} (h : Traced rows lapses (before ++ r :: rest) rowCount) :
    Traced rows (lapses + 1) (before ++ rest) rowCount := by
  have fewer : List.Sublist (before ++ rest) (before ++ r :: rest) :=
    (List.Sublist.refl before).append (List.sublist_cons_self r rest)
  refine ⟨h.ordered.sublist fewer, fun s inside => h.below s (fewer.subset inside),
    fun none => absurd none (Nat.succ_ne_zero _), fun _ => ?_⟩
  by_cases none : lapses = 0
  · refine ⟨r, by simp [← h.whole none], h.below r (by simp), ?_⟩
    obtain ⟨_, later, earlier⟩ := List.pairwise_append.mp h.ordered
    rw [List.mem_append, not_or]
    constructor
    · intro inside
      exact Nat.lt_irrefl _ (earlier r inside r List.mem_cons_self)
    · intro inside
      exact Nat.lt_irrefl _ ((List.pairwise_cons.mp later).1 r inside)
  · obtain ⟨s, inside, before, outside⟩ := h.lost none
    exact ⟨s, inside, before, fun again => outside (fewer.subset again)⟩

end Traced

section

variable [Gzip]

/-- The call is turned down before anything is done. -/
def Call.IsRefused (w : Window) : Call → Prop
  | append index cells => (w.refusal? index cells).isSome
  | pageOut _ => w.spill = none

/-- All rows that were to leave memory are in the spill, and only its flush after them failed. -/
def Call.IsUnflushed (w v : Window) : Call → Prop
  | append _ _ => False
  | pageOut keep => ∃ u e, (pageRows (w.resident.length - keep)).on w = (.ok (), u) ∧
      (onSpill Spill.flush).on u = (.error e, v)

/-- The sheet has a spill that takes rows. -/
def TakesRows (w : Window) : Prop := ∃ spill, w.spill = some spill ∧ spill.finished = false

/-- When the worksheet is written to the output, the disk fails as the spill is finished. -/
def Spoils {ω : Type} [Output ω] (w : Window) (s : ω) : Prop :=
  (∃ t, (Writer.writeAll w.headTokens : Action ω Unit).on s = (.ok (), t)) ∧
    ∃ spill spill' e, w.spill = some spill ∧ Spill.finish.on spill = (.error e, spill')

/-- The sheets that are reached, with the rows in the spill, the rows whose calls came through, the number of calls that
    lapsed and the number of times that the disk failed. -/
inductive Reached (disk : Disk) : Window → List Row → List Row → Nat → Nat → Prop where
  | fresh (name : String) (capacity : Nat) (compressed : Bool) :
      Reached disk (create name capacity compressed disk) [] [] 0 0
  | setWidths {w spilled rows lapses faults} (widths : List Nat) : Reached disk w spilled rows lapses faults →
      Reached disk { w with widths } spilled rows lapses faults
  | done {w v spilled rows lapses faults} {c : Call} : Reached disk w spilled rows lapses faults →
      c.act.on w = (.ok (), v) → Reached disk v (spilled ++ c.moved w v) (rows ++ c.rows) lapses faults
  | refused {w v spilled rows lapses faults e} {c : Call} : Reached disk w spilled rows lapses faults →
      c.act.on w = (.error e, v) → c.IsRefused w → Reached disk v spilled rows lapses faults
  | lapsed {w v spilled rows lapses faults e} {c : Call} : Reached disk w spilled rows lapses faults →
      c.act.on w = (.error e, v) → ¬c.IsRefused w → ¬w.TakesRows → Reached disk v spilled rows (lapses + 1) faults
  | broke {w v spilled rows lapses faults e} {c : Call} : Reached disk w spilled rows lapses faults →
      c.act.on w = (.error e, v) → ¬c.IsRefused w → w.TakesRows →
      Reached disk v (spilled ++ c.moved w v) rows lapses (faults + 1)
  | wrote {w spilled rows lapses faults} {ω : Type} [Output ω] (s : ω) : Reached disk w spilled rows lapses faults →
      ¬w.Spoils s → Reached disk (writePart.on (w, s)).2.1 spilled rows lapses faults
  | spoiled {w spilled rows lapses faults} {ω : Type} [Output ω] (s : ω) : Reached disk w spilled rows lapses faults →
      w.Spoils s → Reached disk (writePart.on (w, s)).2.1 spilled rows lapses (faults + 1)
  | disposed {w spilled rows lapses faults} : Reached disk w spilled rows lapses faults →
      Reached disk w.dispose [] rows lapses faults

variable {disk : Disk} {w u v : Window} {spill : Spill} {c : Call} {e : ExportError} {spilled : List Row}
variable {faults n keep : Nat} {finished : Bool}

/-! ## Calls that fail -/

theorem act_refused (refused : c.IsRefused w) : ∃ e, c.act.on w = (.error e, w) := by
  cases c with
  | append index cells =>
      obtain ⟨fault, refusal⟩ := Option.isSome_iff_exists.mp refused
      exact ⟨_, append_refused refusal⟩
  | pageOut keep => exact ⟨_, pageOut_disposed keep refused⟩

theorem refusal?_of_not_refused {index : Nat} {cells : List Cell} (accepted : ¬ (Call.append index cells).IsRefused w) :
    w.refusal? index cells = none := by
  simpa [Call.IsRefused] using accepted

theorem act_disposed (gone : w.spill = none) : (c.act.on w).2.spill = none := by
  cases c with
  | pageOut keep => rw [Call.act, pageOut_disposed keep gone, gone]
  | append index cells =>
      cases refusal : w.refusal? index cells with
      | some fault => rw [Call.act, append_refused refusal, gone]
      | none =>
          rw [Call.act, append_accepted refusal]
          split
          · rw [pageOut_disposed (w := w.add _) _ gone]
            exact gone
          · exact gone

/-- A row that is not refused comes after all others. -/
theorem rowCount_le_of_accepted {index : Nat} {cells : List Cell} (accepted : w.refusal? index cells = none) :
    w.rowCount ≤ index := by
  by_contra late
  simp only [refusal?] at accepted
  split at accepted
  · simp at accepted
  · rw [if_pos (Nat.lt_of_not_le late)] at accepted
    simp at accepted

/-- Paging out to a finished spill takes the oldest row out of memory. -/
theorem pageOut_lapsed (held : w.spill = some spill) (finished : spill.finished = true)
    (failed : (pageOut keep).on w = (.error e, v)) :
    keep < w.resident.length ∧ v = { w with resident := w.resident.tail } := by
  rw [pageOut_finished keep held finished] at failed
  split at failed
  · exact ⟨‹_›, (congrArg Prod.snd failed).symm⟩
  · cases failed

/-- An append that fails late takes the oldest row out of memory, while its own row stays. -/
theorem append_lapsed {index : Nat} {cells : List Cell} (held : w.spill = some spill) (finished : spill.finished = true)
    (accepted : w.refusal? index cells = none) (failed : (append index cells).on w = (.error e, v)) :
    w.capacity < w.resident.length + 1 ∧
      v = { w.add ⟨index, cells⟩ with resident := (w.resident ++ [Row.mk index cells]).tail } := by
  rw [append_accepted accepted] at failed
  split at failed
  · exact ⟨‹_›, (pageOut_lapsed (w := w.add ⟨index, cells⟩) held finished failed).2⟩
  · cases failed

/-- A call that lapses counts no row in the spill. -/
theorem lapsed_spilledRows (failed : c.act.on w = (.error e, v)) (begun : ¬c.IsRefused w) (closed : ¬w.TakesRows) :
    v.spilledRows = w.spilledRows := by
  cases there : w.spill with
  | none =>
      have gone := act_disposed there (c := c)
      rw [failed] at gone
      rw [spilledRows, spilledRows, gone, there]
  | some spill =>
      have finished : spill.finished = true := by
        by_contra unfinished
        exact closed ⟨spill, there, Bool.eq_false_iff.mpr unfinished⟩
      cases c with
      | pageOut keep =>
          obtain ⟨-, rfl⟩ := pageOut_lapsed there finished failed
          rfl
      | append index cells =>
          obtain ⟨-, rfl⟩ := append_lapsed there finished (refusal?_of_not_refused begun) failed
          rfl

/-! ### What a call leaves -/

theorem onSpill_keeps_rowCount {α : Type} (a : Action Spill α) :
    ActionOf.Keeps (fun w : Window => w.rowCount = n) (onSpill a) := by
  intro w count
  rw [onSpill, ActionOf.on_of]
  cases w.spill with
  | none => exact count
  | some spill => exact count

theorem pageRow_keeps_rowCount : ActionOf.Keeps (fun w : Window => w.rowCount = n) pageRow := by
  refine ActionOf.Keeps.get.bind fun w => ?_
  cases w.resident with
  | nil => exact .pure _
  | cons r rest =>
      have listed : ActionOf.Keeps (fun w : Window => w.rowCount = n) (tokensOf r) := fun _ count => count
      exact .bind (.modify fun _ count => count) fun _ => (onSpill_keeps_rowCount _).bind fun _ =>
        listed.bind fun _ => onSpill_keeps_rowCount _

theorem pageRows_keeps_rowCount (k : Nat) : ActionOf.Keeps (fun w : Window => w.rowCount = n) (pageRows k) := by
  induction k with
  | zero => exact .pure _
  | succ k ih => exact pageRow_keeps_rowCount.bind fun _ => ih

theorem pageOut_keeps_rowCount (keep : Nat) : ActionOf.Keeps (fun w : Window => w.rowCount = n) (pageOut keep) :=
  (onSpill_keeps_rowCount _).bind fun _ => ActionOf.Keeps.get.bind fun _ =>
    (pageRows_keeps_rowCount _).bind fun _ => onSpill_keeps_rowCount _

/-- An append that was not refused has added its row, whatever comes of paging out. -/
theorem rowCount_append {index : Nat} {cells : List Cell} (accepted : w.refusal? index cells = none) :
    ((append index cells).on w).2.rowCount = index + 1 := by
  rw [append_accepted accepted]
  split
  · exact pageOut_keeps_rowCount w.capacity (w.add ⟨index, cells⟩) rfl
  · rfl

/-- A row that leaves memory is in the spill if it was appended there, and else it is gone. -/
theorem pageRow_leaves {r : Row} {rest : List Row} (held : w.spill = some spill) (resident : w.resident = r :: rest) :
    ∃ outcome v, pageRow.on w = (outcome, v) ∧ w.Relieved 1 v ∧ v.spilledRows = match outcome with
      | .ok _ => w.spilledRows + 1
      | .error _ => w.spilledRows := by
  have before : w.spilledRows = spill.rows := by rw [spilledRows, held]; rfl
  cases finished : spill.finished with
  | true =>
      refine ⟨_, { w with resident := rest }, pageRow_finished held finished resident, ⟨spill, w.letters, ?_⟩, rfl⟩
      rw [resident, ← held]
      rfl
  | false =>
      obtain ⟨outcome, spill', appended, -, count⟩ := Spill.append_counts (r.tokensBy w.letters).1 spill
      refine ⟨outcome, { w with resident := rest, spill := some spill', letters := (r.tokensBy w.letters).2 }, ?_,
        ⟨spill', (r.tokensBy w.letters).2, ?_⟩, ?_⟩
      · rw [pageRow_on held finished resident]
        exact onSpill_on (w := { w with resident := rest, letters := (r.tokensBy w.letters).2 }) held appended
      · rw [resident]
        rfl
      · rw [before]
        exact count

/-- Rows leave memory up to the first that cannot be appended to the spill, which is gone. -/
theorem pageRows_leaves (there : w.spill ≠ none) (enough : n ≤ w.resident.length) :
    ∃ outcome v k, (pageRows n).on w = (outcome, v) ∧ v.spilledRows = w.spilledRows + k ∧ match outcome with
      | .ok _ => k = n ∧ w.Relieved n v
      | .error _ => k < n ∧ w.Relieved (k + 1) v := by
  obtain ⟨spill, held⟩ := Option.ne_none_iff_exists'.mp there
  induction n generalizing w spill with
  | zero => exact ⟨.ok (), w, 0, rfl, rfl, rfl, spill, w.letters, by rw [List.drop_zero, ← held]⟩
  | succ n ih =>
      cases resident : w.resident with
      | nil => simp [resident] at enough
      | cons r rest =>
          obtain ⟨outcome, u, paged, left, count⟩ := pageRow_leaves held resident
          cases outcome with
          | error e =>
              refine ⟨.error e, u, 0, ?_, count, Nat.succ_pos n, left⟩
              rw [pageRows, ActionOf.on_bind_error paged]
          | ok _ =>
              have fewer : n ≤ u.resident.length := by
                rw [left.resident, List.length_drop]
                omega
              obtain ⟨spill', there'⟩ := left.exists_spill
              obtain ⟨outcome, v, k, pagedAll, counted, ends⟩ := ih (by simp [there']) fewer spill' there'
              refine ⟨outcome, v, k + 1, ?_, ?_, ?_⟩
              · rw [pageRows, ActionOf.on_bind_ok paged, pagedAll]
              · rw [counted, count, Nat.add_right_comm, Nat.add_assoc]
              · cases outcome with
                | ok _ => exact ⟨congrArg (· + 1) ends.1, Nat.add_comm 1 n ▸ left.trans ends.2⟩
                | error e => exact ⟨Nat.succ_lt_succ ends.1, Nat.add_comm 1 (k + 1) ▸ left.trans ends.2⟩

/-- Paging out fails at a row, or as the spill is flushed after all rows. -/
theorem pageOut_failed (there : w.spill ≠ none) (failed : (pageOut keep).on w = (.error e, v)) :
    (∃ k, k < w.resident.length - keep ∧ v.spilledRows = w.spilledRows + k ∧ w.Relieved (k + 1) v ∧
      ¬(Call.pageOut keep).IsUnflushed w v) ∨
    v.spilledRows = w.spilledRows + (w.resident.length - keep) ∧ w.Relieved (w.resident.length - keep) v ∧
      (Call.pageOut keep).IsUnflushed w v := by
  obtain ⟨spill, held⟩ := Option.ne_none_iff_exists'.mp there
  obtain ⟨outcome, u, k, paged, count, ends⟩ := pageRows_leaves there (Nat.sub_le w.resident.length keep)
  rw [pageOut, ActionOf.on_bind_ok (look_on held), ActionOf.on_get_bind] at failed
  cases outcome with
  | error e =>
      rw [ActionOf.on_bind_error paged] at failed
      cases failed
      refine .inl ⟨k, ends.1, count, ends.2, ?_⟩
      rintro ⟨_, _, through, -⟩
      cases paged.symm.trans through
  | ok _ =>
      obtain ⟨rfl, left⟩ := ends
      rw [ActionOf.on_bind_ok paged] at failed
      obtain ⟨spill', there'⟩ := left.exists_spill
      cases flushed : Spill.flush.on spill' with
      | mk outcome spill'' =>
          cases failed.symm.trans (onSpill_on there' flushed)
          refine .inr ⟨?_, left.trans (.of_spill spill''), u, e, paged, failed⟩
          obtain ⟨rows, -⟩ := Spill.flush_keeps spill'.rows spill'.finished spill' ⟨rfl, rfl⟩
          rw [flushed] at rows
          rw [← count, spilledRows, spilledRows, there']
          exact rows

/-! ## What is reached -/

/-- What holds of a spill however far the writing of the worksheet comes. -/
theorem writePart_leaves {ω : Type} [Output ω] {P : Spill → Prop} (there : w.spill = some spill) (s : ω)
    (before : P spill)
    (after : ∀ t, (Writer.writeAll w.headTokens : Action ω Unit).on s = (.ok (), t) → P (Spill.finish.on spill).2)
    (reads : ActionOf.Keeps P Spill.read) :
    ∃ spill' letters, (writePart.on (w, s)).2.1 = { w with spill := some spill', letters } ∧ P spill' := by
  rw [writePart, ActionOf.on_bind_ok (ActionOf.on_first_of (look_on there) s), ActionOf.on_get_bind, ActionOf.on_bind]
  cases wrote : (Writer.writeAll w.headTokens).on s with
  | mk outcome t =>
      rw [ActionOf.on_second_of wrote]
      cases outcome with
      | error e => exact ⟨spill, w.letters, by rw [← there], before⟩
      | ok _ =>
          -- from here on only the letters change
          let Q (x : Window × ω) : Prop := ∃ spill' letters, x.1 = { w with spill := some spill', letters } ∧ P spill'
          refine ActionOf.Keeps.after (P := Q) ?_ fun _ => .bind ?_ fun _ => ?_
          · rw [onSpillWith, ActionOf.on_of]
            simp only [there]
            exact ⟨_, w.letters, rfl, Spill.copyTo_leaves (after t wrote) reads t⟩
          · rintro ⟨_, t⟩ ⟨spill', letters, rfl, held⟩
            obtain ⟨tokens, letters', listed, -⟩ := tailTokens_on w.resident { w with spill := some spill', letters }
            rw [ActionOf.on_first_of listed]
            exact ⟨spill', letters', rfl, held⟩
          · exact fun x held => held

theorem writePart_disposed {ω : Type} [Output ω] (gone : w.spill = none) (s : ω) :
    writePart.on (w, s) = (.error (SheetFault.disposed w.name).toError, w, s) := by
  rw [writePart, ActionOf.on_bind_error (ActionOf.on_first_of (onSpill_disposed gone) s)]

/-- A sheet that is reached was disposed of, or its rows can be told from its course unless the disk has failed. -/
def Followed (disk : Disk) (w : Window) (spilled rows : List Row) (lapses faults : Nat) : Prop :=
  w.spill = none ∨ (faults = 0 → (∃ finished, Holds disk w spilled finished) ∧ 0 < w.capacity ∧
    Traced rows lapses (spilled ++ w.resident) w.rowCount)

theorem Followed.lapsed (h : Followed disk w spilled rows lapses faults) (failed : c.act.on w = (.error e, v))
    (begun : ¬c.IsRefused w) (closed : ¬w.TakesRows) : Followed disk v spilled rows (lapses + 1) faults := by
  obtain gone | follows := h
  · left
    rw [← act_disposed gone (c := c), failed]
  · refine .inr fun none => ?_
    obtain ⟨⟨_, spill, there, rfl, holds⟩, room, traced⟩ := follows none
    have finished : spill.finished = true := by
      by_contra unfinished
      exact closed ⟨spill, there, Bool.eq_false_iff.mpr unfinished⟩
    cases c with
    | pageOut keep =>
        obtain ⟨many, rfl⟩ := pageOut_lapsed there finished failed
        cases resident : w.resident with
        | nil => simp [resident] at many
        | cons r rest =>
            rw [resident] at traced
            exact ⟨⟨_, spill, there, rfl, holds⟩, room, traced.drop⟩
    | append index cells =>
        have accepted := refusal?_of_not_refused begun
        obtain ⟨many, rfl⟩ := append_lapsed there finished accepted failed
        cases resident : w.resident with
        | nil =>
            rw [resident, List.length_nil] at many
            omega
        | cons r rest =>
            rw [resident] at traced
            refine ⟨⟨_, spill, there, rfl, holds⟩, room, ?_⟩
            have later := traced.drop.add_unnoted (r := ⟨index, cells⟩) (rowCount_le_of_accepted accepted)
              (Nat.succ_ne_zero _)
            rwa [List.append_assoc] at later

section

variable [LawfulGzip]

/-- As long as the disk does not fail, the spill holds its rows, however far the worksheet was written. -/
theorem writePart_holds {ω : Type} [Output ω] {s : ω} (h : Holds disk w spilled finished) (clean : ¬w.Spoils s) :
    ∃ finished', Holds disk (writePart.on (w, s)).2.1 spilled finished' ∧ w.Relieved 0 (writePart.on (w, s)).2.1 := by
  obtain ⟨spill, there, -, rows, has⟩ := h
  have finish (t : ω) (wrote : (Writer.writeAll w.headTokens).on s = (.ok (), t)) :
      (Spill.finish.on spill).2.Has disk (Row.textOf spilled).toUTF8 ∧
        (Spill.finish.on spill).2.rows = spilled.length := by
    cases finished : Spill.finish.on spill with
    | mk outcome spill' =>
        cases outcome with
        | error e => exact absurd ⟨⟨t, wrote⟩, spill, spill', e, there, finished⟩ clean
        | ok _ =>
            obtain ⟨has, -, count⟩ := (Spill.finish_comes has).of_through finished
            exact ⟨has, count.trans rows⟩
  obtain ⟨spill', letters, left, has, rows⟩ := writePart_leaves there s ⟨has, rows⟩ finish
    (Spill.read_keeps disk (Row.textOf spilled).toUTF8 spilled.length)
  rw [left]
  exact ⟨spill'.finished, ⟨spill', rfl, rfl, rows, has⟩, spill', letters, rfl⟩

namespace Followed

theorem done (h : Followed disk w spilled rows lapses faults) (ran : c.act.on w = (.ok (), v)) :
    Followed disk v (spilled ++ c.moved w v) (rows ++ c.rows) lapses faults := by
  obtain gone | follows := h
  · left
    rw [← act_disposed gone (c := c), ran]
  · refine .inr fun none => ?_
    obtain ⟨⟨finished, holds⟩, room, traced⟩ := follows none
    obtain ⟨held, sameRows, -, capacity, count⟩ := Call.act_through holds ran
    refine ⟨⟨finished, held⟩, capacity ▸ room, ?_⟩
    rw [sameRows, count]
    cases c with
    | pageOut keep => simpa [Call.rows, Call.enter] using traced
    | append index cells => exact traced.add (rowCount_le_of_accepted (append_through ran).1)

theorem wrote {ω : Type} [Output ω] {s : ω} (h : Followed disk w spilled rows lapses faults) (clean : ¬w.Spoils s) :
    Followed disk (writePart.on (w, s)).2.1 spilled rows lapses faults := by
  obtain gone | follows := h
  · rw [writePart_disposed gone]
    exact .inl gone
  · refine .inr fun none => ?_
    obtain ⟨⟨finished, holds⟩, room, traced⟩ := follows none
    obtain ⟨finished', holds, left⟩ := writePart_holds holds clean
    exact ⟨⟨finished', holds⟩, left.capacity ▸ room, by rwa [left.resident, left.rowCount, List.drop_zero]⟩

end Followed

theorem Reached.followed (h : Reached disk w spilled rows lapses faults) :
    Followed disk w spilled rows lapses faults := by
  have failed {w : Window} {spilled rows : List Row} {lapses faults : Nat} :
      Followed disk w spilled rows lapses (faults + 1) := .inr fun none => absurd none (Nat.succ_ne_zero _)
  induction h with
  | fresh name capacity compressed =>
      exact .inr fun _ => ⟨⟨false, holds_create name capacity compressed disk⟩,
        Nat.lt_of_lt_of_le Nat.one_pos (Nat.le_max_right ..), .nil, by simp [create], fun _ => rfl,
        fun some => absurd rfl some⟩
  | setWidths widths _ ih => exact ih
  | done _ ran ih => exact ih.done ran
  | refused _ ended refused ih =>
      obtain ⟨_, same⟩ := act_refused refused
      obtain rfl := congrArg Prod.snd (same.symm.trans ended)
      exact ih
  | lapsed _ ended begun closed ih => exact ih.lapsed ended begun closed
  | broke _ _ _ _ _ => exact failed
  | wrote s _ clean ih => exact ih.wrote clean
  | spoiled s _ _ _ => exact failed
  | disposed _ _ => exact .inl rfl

/-! ### On a sound disk -/

/-- A call on a spill that takes rows comes through if it is not refused, unless the disk fails. -/
theorem act_comes (h : Holds disk w spilled false) (begun : ¬c.IsRefused w) :
    c.act.ComesTo w (disk ≠ .sound) fun _ _ => True := by
  cases c with
  | pageOut keep => exact (pageOut_comes keep h).imp id fun _ _ _ => trivial
  | append index cells =>
      rw [ActionOf.ComesTo, Call.act, append_accepted (refusal?_of_not_refused begun)]
      split
      · exact (pageOut_comes (w := w.add ⟨index, cells⟩) w.capacity h).imp id fun _ _ _ => trivial
      · exact .inl ⟨(), _, rfl, trivial⟩

theorem not_spoils {ω : Type} [Output ω] {s : ω} (h : Holds .sound w spilled finished) : ¬w.Spoils s := by
  rintro ⟨-, spill', t, e, there, failed⟩
  obtain ⟨spill, there', -, -, has⟩ := h
  obtain rfl := Option.some.inj (there.symm.trans there')
  obtain ⟨_, _, came, -⟩ := (Spill.finish_comes has).through (not_not_intro rfl)
  cases failed.symm.trans came

/-- A sound disk never fails. -/
theorem Reached.sound (h : Reached .sound w spilled rows lapses faults) : faults = 0 := by
  induction h with
  | fresh => rfl
  | setWidths | done | refused | lapsed | wrote | disposed => assumption
  | broke before failed begun takes ih =>
      exfalso
      obtain ⟨spill, there, unfinished⟩ := takes
      obtain gone | follows := before.followed
      · cases gone.symm.trans there
      · obtain ⟨⟨_, spill', there', rfl, holds⟩, -⟩ := follows ih
        obtain rfl := Option.some.inj (there.symm.trans there')
        obtain ⟨_, _, came, -⟩ := (act_comes ⟨spill, there, unfinished, holds⟩ begun).through (not_not_intro rfl)
        cases failed.symm.trans came
  | spoiled s before spoils ih =>
      exfalso
      obtain gone | follows := before.followed
      · obtain ⟨-, _, _, _, there, -⟩ := spoils
        cases gone.symm.trans there
      · obtain ⟨⟨_, holds⟩, -⟩ := follows ih
        exact not_spoils holds spoils

end

/-! ## What a call that fails leaves -/

theorem moved_eq_nil (same : v.spilledRows = w.spilledRows) : c.moved w v = [] := by
  rw [Call.moved, same, Nat.sub_self, List.take_zero]

/-- What was reached before a call that fails is reached after it too. -/
theorem Reached.failed (reached : Reached disk w spilled rows lapses faults) (failed : c.act.on w = (.error e, v)) :
    ∃ lapses' faults', Reached disk v (spilled ++ c.moved w v) rows lapses' faults' := by
  by_cases refused : c.IsRefused w
  · obtain ⟨_, same⟩ := act_refused refused
    obtain rfl := congrArg Prod.snd (same.symm.trans failed)
    rw [moved_eq_nil rfl, List.append_nil]
    exact ⟨_, _, reached.refused failed refused⟩
  · by_cases takes : w.TakesRows
    · exact ⟨_, _, reached.broke failed refused takes⟩
    · rw [moved_eq_nil (lapsed_spilledRows failed refused takes), List.append_nil]
      exact ⟨_, _, reached.lapsed failed refused takes⟩

/-- A call that fails leaves the rows of a sheet, those of the spill and those in memory, and their number as they were
    exactly if it was refused, and then it leaves the whole sheet as it was, or if all rows that it paged out have
    arrived in the spill and no more than the flush after them failed. -/
theorem failed_call_keeps_contents_iff (reached : Reached disk w spilled rows lapses faults)
    (failed : c.act.on w = (.error e, v)) :
    (∃ lapses' faults', Reached disk v (spilled ++ c.moved w v) rows lapses' faults') ∧
    (spilled ++ c.moved w v ++ v.resident = spilled ++ w.resident ∧ v.rowCount = w.rowCount ↔
      c.IsRefused w ∨ c.IsUnflushed w v) ∧
    (c.IsRefused w → v = w) := by
  have whole : c.IsRefused w → v = w := by
    intro refused
    obtain ⟨_, same⟩ := act_refused refused
    exact congrArg Prod.snd (failed.symm.trans same)
  refine ⟨reached.failed failed, ?_, whole⟩
  by_cases refused : c.IsRefused w
  · obtain rfl := whole refused
    rw [moved_eq_nil rfl, List.append_nil]
    exact ⟨fun _ => .inl refused, fun _ => ⟨rfl, rfl⟩⟩
  · rw [List.append_assoc, List.append_cancel_left_eq]
    cases c with
    | append index cells =>
        have accepted := refusal?_of_not_refused refused
        have next := rowCount_le_of_accepted accepted
        have last : v.rowCount = index + 1 := by
          rw [← rowCount_append accepted, show (append index cells).on w = (.error e, v) from failed]
        refine ⟨fun same => absurd same.2 (by omega), fun wrong => absurd wrong ?_⟩
        rintro (early | late)
        · exact refused early
        · exact late
    | pageOut keep =>
        have count : v.rowCount = w.rowCount := by
          have kept := pageOut_keeps_rowCount keep w (n := w.rowCount) rfl
          rwa [show (pageOut keep).on w = (.error e, v) from failed] at kept
        obtain ⟨k, few, moved, left, flushed⟩ | ⟨moved, left, unflushed⟩ := pageOut_failed refused failed
        · refine ⟨fun same => ?_, fun wrong => (wrong.elim refused flushed).elim⟩
          have lengths := congrArg List.length same.1
          rw [Call.moved, moved, left.resident, Call.enter, Nat.add_sub_cancel_left, List.length_append,
            List.length_take, List.length_drop] at lengths
          omega
        · refine ⟨fun _ => .inr unflushed, fun _ => ⟨?_, count⟩⟩
          rw [Call.moved, moved, left.resident, Call.enter, Nat.add_sub_cancel_left, List.take_append_drop]

end

/-! ## Sheets with one row -/

/-- A number that is not finite is refused, although a full sheet would page out for its row. -/
theorem failed_call_keeps_contents_iff_nan :
    let w : Window := { create "S" 1 false with resident := [⟨0, []⟩], rowCount := 1 }
    let c : Call := .append 5 [⟨.float ⟨0x7FF8000000000000⟩, 0⟩]
    ∃ e v, Reached .sound w [] [⟨0, []⟩] 0 0 ∧ c.act.on w = (.error e, v) ∧
      [] ++ c.moved w v ++ v.resident = [] ++ w.resident ∧ v.rowCount = w.rowCount := by
  intro w c
  have reached : Reached .sound w [] [⟨0, []⟩] 0 0 :=
    (Reached.fresh "S" 1 false).done (c := .append 0 []) rfl
  have refused : c.IsRefused w := by
    simp only [c, Call.IsRefused]
    decide
  obtain ⟨e, failed⟩ := act_refused refused
  exact ⟨e, w, reached, failed, (failed_call_keeps_contents_iff reached failed).2.1.mpr (.inl refused)⟩

/-- A sheet with one row, in memory. -/
def single (cells : List Cell) : Window := (create "S" 1 false).add ⟨0, cells⟩

theorem holds_single (cells : List Cell) : Holds .sound (single cells) [] false := holds_create "S" 1 false .sound

variable {cells : List Cell}

theorem append_single (accepted : (create "S" 1 false).refusal? 0 cells = none) :
    (Call.append 0 cells).act.on (create "S" 1 false) = (.ok (), single cells) :=
  append_accepted accepted

theorem reached_single (cells : List Cell) (accepted : (create "S" 1 false).refusal? 0 cells = none) :
    Reached .sound (single cells) [] [⟨0, cells⟩] 0 0 :=
  (Reached.fresh "S" 1 false).done (append_single accepted)

/-- The same once its worksheet was written, with a spill that takes no rows any more. -/
theorem exists_reached_written (cells : List Cell) (accepted : (create "S" 1 false).refusal? 0 cells = none) :
    ∃ v, Reached .sound v [] [⟨0, cells⟩] 0 0 ∧ Holds .sound v [] true ∧ v.resident = [⟨0, cells⟩] := by
  obtain ⟨_, ⟨v, t⟩, wrote, ⟨left, holds⟩, -⟩ := (writePart_comes Sink.takesAll.takes (holds_single cells)
    (s := Sink.unlimited) ⟨rfl, rfl, rfl⟩).through (by simp)
  have reached := (reached_single cells accepted).wrote Sink.unlimited (not_spoils (holds_single cells))
  rw [wrote] at reached
  exact ⟨v, reached, holds, left.resident⟩

theorem pageOut_written {v : Window} (holds : Holds .sound v [] true) (resident : v.resident = [⟨0, cells⟩]) :
    (Call.pageOut 0).act.on v = (.error (.write "spill file already finished"), { v with resident := [] }) := by
  obtain ⟨spill, there, finished, -⟩ := holds
  refine (pageOut_finished 0 there finished).trans ?_
  rw [resident]
  exact if_pos Nat.one_pos

/-- A sheet that is asked to page out after its worksheet was written loses its oldest row in memory. -/
theorem flush_after_writing_loses_row :
    ∃ w v e, Reached .sound w [] [⟨0, []⟩] 0 0 ∧ (Call.pageOut 0).act.on w = (.error e, v) ∧
      w.resident = [⟨0, []⟩] ∧ v.resident = [] ∧
      [] ++ (Call.pageOut 0).moved w v ++ v.resident ≠ [] ++ w.resident := by
  obtain ⟨w, reached, holds, resident⟩ := exists_reached_written [] rfl
  refine ⟨w, _, _, reached, pageOut_written holds resident, resident, rfl, ?_⟩
  rw [moved_eq_nil (show ({ w with resident := [] } : Window).spilledRows = w.spilledRows from rfl), resident]
  exact (List.cons_ne_nil _ _).symm

end SheetExport.Window
