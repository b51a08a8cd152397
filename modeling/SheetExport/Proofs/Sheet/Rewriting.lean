import SheetExport.Proofs.Sheet.Reached

/-! # Writing a worksheet again

To write its worksheet a sheet finishes its spill, and nothing else of it changes, however far the output lets it come.
A sheet that was written, any number of times and between any of the calls that fill it, is therefore `AsIf` it had only
been filled: an output that takes everything gets the same bytes from it.
-/

namespace SheetExport.Window

open Xml

section

variable [Gzip]

/-- What a sheet is filled with. -/
inductive Filling where
  | call (c : Call)
  | setWidths (widths : List Nat)

def Filling.act : Filling → Action Window Unit
  | call c => c.act
  | setWidths widths => modify fun w => { w with widths }

def fill (fillings : List Filling) : Action Window Unit := forM fillings Filling.act

/-- A sheet that was filled by calls which came through, and was written to any outputs in between. -/
inductive Packed (name : String) (capacity : Nat) (compressed : Bool) : List Filling → Window → Prop where
  | fresh : Packed name capacity compressed [] (create name capacity compressed)
  | filled {fillings w v} (f : Filling) : Packed name capacity compressed fillings w → f.act.on w = (.ok (), v) →
      Packed name capacity compressed (fillings ++ [f]) v
  | wrote {fillings w} {ω : Type} [Output ω] (s : ω) : Packed name capacity compressed fillings w →
      Packed name capacity compressed fillings (writePart.on (w, s)).2.1

/-- A sheet differs from one that takes rows in its letters, which nothing shows, and in its spill, which may be
    finished but holds the same rows. -/
def AsIf (w v : Window) : Prop :=
  ∃ spilled finished spill letters, Holds .sound v spilled false ∧ w = { v with spill := some spill, letters } ∧
    Holds .sound w spilled finished

/-- An output that takes everything gets these bytes as the worksheet. -/
def Writes (w : Window) (bytes : ByteArray) : Prop :=
  ∀ {ω : Type} [Output ω] {H : ByteArray → ω → Prop}, TakesAll H → ∀ taken s, H taken s →
    ∃ v t, writePart.on (w, s) = (.ok (), v, t) ∧ H (taken ++ bytes) t

variable {name : String} {capacity : Nat} {compressed : Bool} {fillings : List Filling} {w v u : Window}

theorem fill_snoc {f : Filling} {s : Window} (before : (fill fillings).on s = (.ok (), w))
    (last : f.act.on w = (.ok (), v)) : (fill (fillings ++ [f])).on s = (.ok (), v) := by
  rw [fill, List.forM_append]
  refine (ActionOf.on_bind_ok before _).trans ?_
  exact ActionOf.on_bind_ok last _

theorem Packed.run {more : List Filling} (packed : Packed name capacity compressed fillings w)
    (ran : (fill more).on w = (.ok (), v)) : Packed name capacity compressed (fillings ++ more) v := by
  induction more generalizing fillings w with
  | nil =>
      obtain rfl : w = v := congrArg Prod.snd ran
      rwa [List.append_nil]
  | cons f more ih =>
      obtain ⟨_, u, first, rest⟩ := ActionOf.through_of_bind (x := f.act) ran
      have packed := ih (packed.filled f first) rest
      rwa [List.append_assoc] at packed

namespace AsIf

theorem create (name : String) (capacity : Nat) (compressed : Bool) :
    AsIf (create name capacity compressed) (create name capacity compressed) :=
  ⟨[], false, _, _, holds_create name capacity compressed .sound, rfl, holds_create name capacity compressed .sound⟩

variable [LawfulGzip]

theorem wrote {ω : Type} [Output ω] (h : AsIf w v) (s : ω) : AsIf (writePart.on (w, s)).2.1 v := by
  obtain ⟨spilled, finished, spill, letters, opened, rfl, held⟩ := h
  obtain ⟨finished', held, spill', letters', left⟩ := writePart_holds (s := s) held (not_spoils held)
  exact ⟨spilled, finished', spill', letters', opened, left, held⟩

/-- Paging out comes through on a finished spill only if there is nothing to page out. -/
theorem pageOut {keep : Nat} (h : AsIf w v) (ran : (pageOut keep).on w = (.ok (), u)) :
    ∃ t, (pageOut keep).on v = (.ok (), t) ∧ AsIf u t := by
  obtain ⟨spilled, finished, spill, letters, opened, rfl, held⟩ := h
  obtain ⟨_, t, paged, ⟨_, _, rfl⟩, opened⟩ := (pageOut_comes keep opened).through (not_not_intro rfl)
  obtain ⟨⟨spill, letters, rfl⟩, held⟩ := pageOut_through held ran
  exact ⟨_, paged, _, finished, spill, letters, opened, rfl, held⟩

theorem append {index : Nat} {cells : List Cell} (h : AsIf w v) (ran : (append index cells).on w = (.ok (), u)) :
    ∃ t, (append index cells).on v = (.ok (), t) ∧ AsIf u t := by
  obtain ⟨spilled, finished, spill, letters, opened, rfl, held⟩ := h
  have added : AsIf ({ v with spill := some spill, letters }.add ⟨index, cells⟩) (v.add ⟨index, cells⟩) :=
    ⟨spilled, finished, spill, letters, opened, rfl, held⟩
  obtain ⟨accepted, rest⟩ := append_through ran
  rw [append_accepted (show v.refusal? index cells = none from accepted)]
  obtain ⟨full, ran⟩ | ⟨few, rfl⟩ := rest
  · rw [if_pos full]
    exact added.pageOut ran
  · rw [if_neg (Nat.not_lt.mpr few)]
    exact ⟨_, rfl, added⟩

/-- What a sheet is filled with comes through on the other one too. -/
theorem filled {f : Filling} (h : AsIf w v) (ran : f.act.on w = (.ok (), u)) :
    ∃ t, f.act.on v = (.ok (), t) ∧ AsIf u t := by
  cases f with
  | setWidths widths =>
      obtain ⟨spilled, finished, spill, letters, opened, rfl, held⟩ := h
      obtain rfl : _ = u := congrArg Prod.snd ran
      exact ⟨_, rfl, spilled, finished, spill, letters, opened, rfl, held⟩
  | call c =>
      cases c with
      | append index cells => exact h.append ran
      | pageOut keep => exact h.pageOut ran

theorem writes_of_holds {spilled : List Row} {finished : Bool} (held : Holds .sound w spilled finished) :
    Writes w (w.partText spilled).toUTF8 := by
  intro ω _ H all taken s ready
  obtain ⟨_, ⟨v, t⟩, wrote, -, ready⟩ := (writePart_comes all.takes held ready).through (by simp)
  exact ⟨v, t, wrote, ready⟩

/-- The same bytes are written from both. -/
theorem writes (h : AsIf w v) : ∃ bytes, Writes v bytes ∧ Writes w bytes := by
  obtain ⟨spilled, finished, spill, letters, opened, rfl, held⟩ := h
  exact ⟨(v.partText spilled).toUTF8, writes_of_holds opened, writes_of_holds held⟩

end AsIf

variable [LawfulGzip]

/-- The same sheet without the writing in between. -/
theorem Packed.asIf (packed : Packed name capacity compressed fillings w) :
    ∃ v, (fill fillings).on (create name capacity compressed) = (.ok (), v) ∧ AsIf w v := by
  induction packed with
  | fresh => exact ⟨_, rfl, .create name capacity compressed⟩
  | filled f _ ran ih =>
      obtain ⟨v, before, same⟩ := ih
      obtain ⟨t, last, same⟩ := same.filled ran
      exact ⟨t, fill_snoc before last, same⟩
  | wrote s _ ih =>
      obtain ⟨v, before, same⟩ := ih
      exact ⟨v, before, same.wrote s⟩

/-- However often a sheet was written while it was filled, and whatever came of it, an output that takes everything gets
    from it what it gets from a sheet that was filled in the same way and never written. Writing once more, to
    any output, changes neither the rows in memory nor the number of rows, and neither did all the writing so far. -/
theorem writing_again_writes_the_same (packed : Packed name capacity compressed fillings w) :
    ∃ v bytes, (fill fillings).on (create name capacity compressed) = (.ok (), v) ∧ Writes v bytes ∧ Writes w bytes ∧
      w.resident = v.resident ∧ w.rowCount = v.rowCount ∧
      ∀ {ω : Type} [Output ω] (s : ω), (writePart.on (w, s)).2.1.resident = w.resident ∧
        (writePart.on (w, s)).2.1.rowCount = w.rowCount := by
  obtain ⟨v, before, same⟩ := packed.asIf
  obtain ⟨bytes, first, again⟩ := same.writes
  have kept {w : Window} (same : AsIf w v) : w.resident = v.resident ∧ w.rowCount = v.rowCount := by
    obtain ⟨_, _, _, _, _, rfl, _⟩ := same
    exact ⟨rfl, rfl⟩
  obtain ⟨resident, count⟩ := kept same
  refine ⟨v, bytes, before, first, again, resident, count, fun s => ?_⟩
  rw [resident, count]
  exact kept (same.wrote s)

end

/-- A sheet with a row in its spill and one in memory, and an output without room for what stands before them. -/
theorem writing_again_writes_the_same_failed :
    let fillings : List Filling := [.call (.append 0 [⟨.int 1, 0⟩]), .call (.append 1 [⟨.int 2, 0⟩])]
    let short : Sink := { Sink.unlimited with limit := some 100 }
    ∃ w bytes u t, (fill fillings).on (create "S" 1 false) = (.ok (), w) ∧ (writePart.on (w, short)).1.isOk = false ∧
      writePart.on (w, Sink.unlimited) = (.ok (), u) ∧ Sink.Open bytes u.2 ∧
      writePart.on ((writePart.on (w, short)).2.1, Sink.unlimited) = (.ok (), t) ∧ Sink.Open bytes t.2 := by
  intro fillings short
  obtain ⟨_, w, paged, -⟩ := (pageOut_comes (w := (single [⟨.int 1, 0⟩]).add ⟨1, [⟨.int 2, 0⟩]⟩) 1
    (holds_single [⟨.int 1, 0⟩])).through (not_not_intro rfl)
  have begun : (fill []).on (create "S" 1 false) = (.ok (), create "S" 1 false) := rfl
  have first : (Call.append 0 [⟨.int 1, 0⟩]).act.on (create "S" 1 false) = (.ok (), single [⟨.int 1, 0⟩]) :=
    append_single rfl
  have second : (Call.append 1 [⟨.int 2, 0⟩]).act.on (single [⟨.int 1, 0⟩]) = (.ok (), w) :=
    (append_accepted rfl).trans ((if_pos (by decide)).trans paged)
  have filled : (fill fillings).on (create "S" 1 false) = (.ok (), w) :=
    fill_snoc (f := .call (.append 1 _)) (fill_snoc (f := .call (.append 0 _)) begun first) second
  have failed : (writePart.on (((fill fillings).on (create "S" 1 false)).2, short)).1.isOk = false := by decide +kernel
  rw [filled] at failed
  obtain ⟨v, bytes, before, once, again, -⟩ := writing_again_writes_the_same ((Packed.fresh.run filled).wrote short)
  obtain rfl : _ = v := congrArg Prod.snd (filled.symm.trans before)
  obtain ⟨_, _, wrote, held⟩ := once Sink.takesAll .empty Sink.unlimited ⟨rfl, rfl, rfl⟩
  obtain ⟨_, _, wrote', held'⟩ := again Sink.takesAll .empty Sink.unlimited ⟨rfl, rfl, rfl⟩
  exact ⟨_, _, _, _, filled, failed, wrote, held, wrote', held'⟩

end SheetExport.Window
