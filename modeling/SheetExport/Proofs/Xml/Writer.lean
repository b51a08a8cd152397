import SheetExport.Proofs.Output
import SheetExport.Xml.Writer

/-! # Writing through a buffer

What a writer has passed on and what it still holds back make up what was written, whatever the buffer does
in between.
-/

namespace SheetExport.Xml.Writer

variable {ω : Type} {H : ByteArray → ω → Prop}

/-- What was written so far, where `H` says what the output has taken. -/
def Has (H : ByteArray → ω → Prop) (text : ByteArray) (w : Writer ω) : Prop :=
  ∃ taken, H taken w.target ∧ taken ++ w.buffer = text

theorem has_onto {target : ω} {taken : ByteArray} (h : H taken target) : Has H taken (onto target) :=
  ⟨taken, h, ByteArray.append_empty⟩

/-- The writer holds nothing back, and the output has taken everything. -/
def Flushed (H : ByteArray → ω → Prop) (text : ByteArray) (w : Writer ω) : Prop := H text w.target ∧ w.buffer = .empty

theorem Flushed.has {text : ByteArray} {w : Writer ω} (flushed : Flushed H text w) : Has H text w :=
  ⟨text, flushed.1, by rw [flushed.2, ByteArray.append_empty]⟩

variable [Output ω]

/-! ## What a writer does -/

/-- Bytes that are not taken stay in the buffer. -/
theorem passOn_on (w : Writer ω) :
    passOn.on w = match (Output.write w.buffer : Action ω Unit).on w.target with
      | (.ok _, t) => (.ok (), ⟨t, .empty⟩)
      | (.error e, t) => (.error e, ⟨t, w.buffer⟩) := by
  rw [passOn, ActionOf.on_get_bind, ActionOf.on_bind, onTarget, ActionOf.on_within]
  cases (Output.write w.buffer : Action ω Unit).on w.target with
  | mk outcome t => cases outcome <;> rfl

theorem pushBytes_on (bytes : ByteArray) (w : Writer ω) :
    (pushBytes bytes).on w =
      if bufferLimit < (w.buffer ++ bytes).size then passOn.on { w with buffer := w.buffer ++ bytes }
      else (.ok (), { w with buffer := w.buffer ++ bytes }) := by
  rw [pushBytes, ActionOf.on_modify_bind, ActionOf.on_get_bind]
  split <;> rfl

theorem flush_on_empty {w : Writer ω} (empty : w.buffer = .empty) : flush.on w = (onTarget Output.flush).on w := by
  rw [flush, ActionOf.on_get_bind, empty]
  rfl

theorem flush_on_filled {w : Writer ω} (filled : w.buffer ≠ .empty) :
    flush.on w = (do passOn; onTarget Output.flush : Action (Writer ω) Unit).on w := by
  have longer : w.buffer.isEmpty = false :=
    beq_eq_false_iff_ne.mpr fun none => filled (ByteArray.size_eq_zero_iff.mp none)
  rw [flush, ActionOf.on_get_bind, longer]
  rfl

/-! ## Onto an output that takes what it is offered -/

variable {excuse : ByteArray → Prop}

variable {text : ByteArray} {w : Writer ω}

theorem passOn_passes (takes : Takes excuse H) (h : Has H text w) :
    passOn.ComesTo w (excuse text) fun _ => Flushed H text := by
  obtain ⟨taken, held, rfl⟩ := h
  rw [ActionOf.ComesTo, passOn_on]
  obtain ⟨_, target, wrote, held⟩ | ⟨excused, fault, target, failed⟩ := takes.write w.buffer taken w.target held
  · exact .inl ⟨(), ⟨target, .empty⟩, by rw [wrote], held, rfl⟩
  · exact .inr ⟨excused, fault, ⟨target, w.buffer⟩, by rw [failed]⟩

theorem pushBytes_appends (takes : Takes excuse H) (bytes : ByteArray) :
    Appends excuse (Has H) (pushBytes bytes) bytes := by
  rintro _ w ⟨taken, held, rfl⟩
  have grown : Has H (taken ++ w.buffer ++ bytes) { w with buffer := w.buffer ++ bytes } :=
    ⟨taken, held, ByteArray.append_assoc.symm⟩
  rw [ActionOf.ComesTo, pushBytes_on]
  split
  · exact (passOn_passes takes grown).imp id fun _ _ flushed => flushed.has
  · exact .inl ⟨(), _, rfl, grown⟩

theorem put_appends (takes : Takes excuse H) (t : Token) : Appends excuse (Has H) (put t) t.toText.toUTF8 := by
  have chunks := Appends.forM (f := push) takes.lasts (fun chunk => pushBytes_appends takes chunk.toUTF8) t.chunks
  rwa [List.map_id'] at chunks

theorem putAll_appends (takes : Takes excuse H) (tokens : List Token) :
    Appends excuse (Has H) (putAll tokens) (render tokens).toUTF8 :=
  Appends.forM takes.lasts (put_appends takes) tokens

theorem flush_passes (takes : Takes excuse H) (h : Has H text w) :
    flush.ComesTo w (excuse text) fun _ => Flushed H text := by
  have last : ∀ v, Flushed H text v →
      ActionOf.ComesTo (onTarget Output.flush) v (excuse text) fun _ => Flushed H text := by
    rintro v ⟨held, empty⟩
    have flushed := takes.flush text v.target held
    rw [ByteArray.append_empty] at flushed
    refine flushed.within.imp id fun _ u ⟨target, held, same⟩ => ?_
    rw [same]
    exact ⟨held, empty⟩
  by_cases empty : w.buffer = .empty
  · rw [ActionOf.ComesTo, flush_on_empty empty]
    obtain ⟨taken, held, rfl⟩ := h
    rw [empty, ByteArray.append_empty] at last ⊢
    exact last w ⟨held, empty⟩
  · rw [ActionOf.ComesTo, flush_on_filled empty]
    exact (passOn_passes takes h).bind fun _ => last

theorem writeAll_appends (takes : Takes excuse H) (tokens : List Token) :
    Appends excuse H (writeAll tokens) (render tokens).toUTF8 := by
  intro taken target held
  have written : ActionOf.ComesTo (do putAll tokens; flush) (onto target) (excuse (taken ++ (render tokens).toUTF8))
      fun _ => Flushed H (taken ++ (render tokens).toUTF8) :=
    (putAll_appends takes tokens taken _ (has_onto held)).bind fun _ _ => flush_passes takes
  obtain ⟨_, w, ran, flushed⟩ | ⟨excused, fault, w, failed⟩ := written
  · exact .of_ok (t := w.target) (by rw [writeAll, ActionOf.on_of, ran]) flushed.1
  · exact .inr ⟨excused, fault, w.target, by rw [writeAll, ActionOf.on_of, failed]⟩

end SheetExport.Xml.Writer
