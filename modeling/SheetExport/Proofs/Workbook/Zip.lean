import SheetExport.Proofs.Output
import SheetExport.Workbook.Zip

/-! # What an archive owes a workbook

A writer that was put onto a sink and given parts by calls which all came through is `Given` these parts. If it then
ends in order, the parts are what is read of the archive behind the bytes that the sink had before. Onto a sink that
takes everything every call comes through, up to the limits of the format for a part that is not declared large.
-/

namespace SheetExport

variable [Zip]

namespace Zip

inductive Given (sink : Sink) : List Part → Writer → Prop where
  | onto : Given sink [] (Zip.onto sink)
  | started {parts w w'} {name : String} {large : Bool} : Given sink parts w → name.utf8ByteSize < 2 ^ 16 →
      (Zip.startPart name large).on w = (.ok (), w') → Given sink (parts ++ [⟨name, true, large, .empty⟩]) w'
  | wrote {parts w w' name large x} (bytes : ByteArray) : Given sink (parts ++ [⟨name, true, large, x⟩]) w →
      (Zip.write bytes).on w = (.ok (), w') → Given sink (parts ++ [⟨name, true, large, x ++ bytes⟩]) w'
  | flushed {parts w w'} : Given sink parts w → Zip.flush.on w = (.ok (), w') → Given sink parts w'

/-- How large a part may surely become that is not declared large. -/
def smallLimit : Nat := 2 ^ 31

end Zip

class LawfulZip : Prop where
  parts_finish {sink parts w sink'} : Zip.Given sink parts w → parts ≠ [] → Zip.finish w = (.ok (), sink') →
    ∃ archive, sink'.content = sink.content ++ archive ∧
      Zip.parts? sink'.content sink.content.size = .ok parts
  startPart_open {sink parts w name} (large : Bool) : Zip.Given sink parts w → Sink.Open sink.content sink →
    name.utf8ByteSize < 2 ^ 16 → (∀ p ∈ parts, p.name ≠ name) → ∃ w', (Zip.startPart name large).on w = (.ok (), w')
  write_open {sink parts name large x w} (bytes : ByteArray) : Zip.Given sink (parts ++ [⟨name, true, large, x⟩]) w →
    Sink.Open sink.content sink → (large = false → (x ++ bytes).size ≤ Zip.smallLimit) →
    ∃ w', (Zip.write bytes).on w = (.ok (), w')
  flush_open {sink parts w} : Zip.Given sink parts w → Sink.Open sink.content sink → ∃ w', Zip.flush.on w = (.ok (), w')
  finish_open {sink parts w} : Zip.Given sink parts w → Sink.Open sink.content sink →
    ∃ sink', Zip.finish w = (.ok (), sink') ∧ Sink.Open sink'.content sink'

namespace Zip

variable [LawfulZip]

/-- A part takes what it is offered, unless the sink has a limit or the part becomes larger than it was declared. -/
theorem takes (sink : Sink) (parts : List Part) (name : String) (large : Bool) :
    Takes (fun x => ¬Sink.Open sink.content sink ∨ large = false ∧ smallLimit < x.size)
      fun x w => Given sink (parts ++ [⟨name, true, large, x⟩]) w where
  write bytes := by
    intro x w given
    refine .of_io (fun none => ?_) fun _ _ ran => given.wrote bytes ran
    rw [not_or, not_and, Nat.not_lt] at none
    obtain ⟨w', ran⟩ := LawfulZip.write_open bytes given (Classical.byContradiction none.1) none.2
    exact ⟨(), w', ran⟩
  flush := by
    intro x w given
    rw [ByteArray.append_empty]
    refine .of_io (fun none => ?_) fun _ _ ran => given.flushed ran
    obtain ⟨w', ran⟩ := LawfulZip.flush_open given (Classical.byContradiction (not_or.mp none).1)
    exact ⟨(), w', ran⟩
  lasts x y := by
    simp only [ByteArray.size_append]
    exact Or.imp_right (And.imp_right fun larger => Nat.lt_of_lt_of_le larger (Nat.le_add_right ..))

end Zip

end SheetExport
