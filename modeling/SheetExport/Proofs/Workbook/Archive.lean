import SheetExport.Proofs.Workbook.ReadBack
import SheetExport.Proofs.Workbook.Zip

/-! # Archives without compression keep what they owe

Parts are written one after another, each between its header and its descriptor. `Holds` is what is true of a
container between any two calls: behind the bytes that the sink had before stand the complete parts, and behind
them the beginning of the part under way. An archive that was finished is read back as the parts written.
-/

namespace SheetExport.Container

open ActionOf Stored

/-- The beginning of the part under way, if there is one. -/
inductive Underway : ByteArray → Option Part → Option PartEntry → Prop where
  | nothing : Underway .empty none none
  | part {e : PartEntry} {packed data : ByteArray} (short : e.name.utf8ByteSize < 2 ^ 16)
      (blocks : IsBlocks packed data) :
      Underway (localHeader e ++ packed) (some ⟨e.name, true, e.large, data⟩) (some e)

/-- The sink has taken some bytes more than another. -/
def Grown (sink : Sink) (bytes : ByteArray) (c : Container) : Prop :=
  c.sink = { sink with content := sink.content ++ bytes }

/-- Complete parts and a part under way, behind the bytes that the sink had before. -/
def Holds (sink : Sink) (parts : List Part) (current : Option Part) (c : Container) : Prop :=
  ∃ archive tail, Grown sink (archive ++ tail) c ∧ IsParts archive parts ∧ c.entries.length = parts.length ∧
    Underway tail current c.current

variable {sink : Sink} {content : ByteArray} {parts : List Part} {current : Option Part} {c : Container}

theorem holds_into (sink : Sink) : Holds sink [] none (into sink) :=
  ⟨.empty, .empty, by rw [Grown, ByteArray.append_empty, ByteArray.append_empty]; rfl, isParts_empty, rfl, .nothing⟩

theorem emit_ends (grown : Grown sink content c) (bytes : ByteArray) :
    Ends (¬Sink.Open sink.content sink) ((emit bytes).on c) fun d =>
      ∃ sink', d = { c with sink := sink' } ∧ Grown sink (content ++ bytes) d := by
  have ran : (emit bytes).on c = (((Sink.write bytes).on c.sink).1,
      { c with sink := ((Sink.write bytes).on c.sink).2 }) := rfl
  rw [ran, grown, Sink.write, on_of]
  split
  · exact .inl ⟨_, rfl, _, rfl, by rw [Grown, ByteArray.append_assoc]⟩
  · rename_i full
    refine .inr ⟨fun opened => full ?_, _, _, rfl⟩
    simp [Sink.hasRoom, opened.1]

theorem flush_ends (h : Holds sink parts current c) :
    Ends (¬Sink.Open sink.content sink) (flush.on c) (Holds sink parts current) := by
  have ran : flush.on c = ((Sink.flush.on c.sink).1, { c with sink := c.sink }) := rfl
  obtain ⟨archive, tail, grown, rest⟩ := h
  rw [ran, Sink.flush, on_of, show c.sink.refusesFlush = sink.refusesFlush by rw [grown]]
  cases refuses : sink.refusesFlush with
  | false => exact .inl ⟨_, rfl, archive, tail, grown, rest⟩
  | true => exact .inr ⟨fun opened => Bool.false_ne_true (opened.2.1.symm.trans refuses), _, _, rfl⟩

theorem write_ends {name : String} {large : Bool} {x : ByteArray} (bytes : ByteArray)
    (h : Holds sink parts (some ⟨name, true, large, x⟩) c) :
    Ends (¬Sink.Open sink.content sink) ((write bytes).on c)
      (Holds sink parts (some ⟨name, true, large, x ++ bytes⟩)) := by
  obtain ⟨archive, tail, grown, complete, listed, underway⟩ := h
  obtain ⟨before, entries, current⟩ := c
  cases underway with
  | @part e packed data short blocks =>
      obtain ⟨d, emitted, sink', rfl, grown⟩ | ⟨closed, fault, d, failed⟩ := emit_ends grown (storedBlocks bytes)
      · let e' : PartEntry := { e with checksum := e.checksum.add bytes, size := e.size + bytes.size,
                                       packed := e.packed + (storedBlocks bytes).size }
        refine .inl ⟨⟨sink', entries, some e'⟩, on_bind_ok emitted _, archive, _, ?_, complete, listed,
          .part (e := e') short (blocks.append (isBlocks_storedBlocks bytes))⟩
        rw [show localHeader e' = localHeader e from rfl]
        simpa only [Grown, ByteArray.append_assoc] using grown
      · exact .inr ⟨closed, fault, d, on_bind_error failed _⟩

theorem endPart_ends (h : Holds sink parts current c) :
    Ends (¬Sink.Open sink.content sink) (endPart.on c) (Holds sink (parts ++ current.toList) none) := by
  obtain ⟨archive, tail, grown, complete, listed, underway⟩ := h
  obtain ⟨before, entries, entry⟩ := c
  cases underway with
  | nothing =>
      exact .inl ⟨_, rfl, archive, .empty, grown, by simpa using complete, by simpa using listed, .nothing⟩
  | @part e packed data short blocks =>
      let e' : PartEntry := { e with packed := e.packed + (storedBlock true .empty).size }
      rw [endPart, on_get_bind]
      obtain ⟨d, emitted, sink', rfl, grown⟩ | ⟨closed, fault, d, failed⟩ :=
        emit_ends grown (storedBlock true .empty ++ descriptor e')
      · refine .inl ⟨⟨sink', entries ++ [e'], none⟩, on_bind_ok emitted _, _, .empty, ?_, complete.append
          (isParts_part e e' short rfl blocks), by simpa using listed, .nothing⟩
        simpa only [Grown, ByteArray.append_assoc, ByteArray.append_empty] using grown
      · exact .inr ⟨closed, fault, d, on_bind_error failed _⟩

theorem startPart_ends (name : String) (short : name.utf8ByteSize < 2 ^ 16) (large : Bool)
    (h : Holds sink parts current c) :
    Ends (¬Sink.Open sink.content sink) ((startPart name large).on c)
      (Holds sink (parts ++ current.toList) (some ⟨name, true, large, .empty⟩)) := by
  obtain ⟨d, ended, archive, tail, grown, complete, listed, underway⟩ | ⟨closed, fault, d, failed⟩ := endPart_ends h
  · obtain ⟨before, entries, entry⟩ := d
    cases underway
    let e : PartEntry := ⟨name, large, before.size, .initial, 0, 0⟩
    rw [startPart, on_bind_ok ended, on_get_bind]
    obtain ⟨d, emitted, sink', rfl, grown⟩ | ⟨closed, fault, d, failed⟩ := emit_ends grown (localHeader e)
    · refine .inl ⟨⟨sink', entries, some e⟩, on_bind_ok emitted _, archive, _, ?_, complete, listed,
        .part (e := e) short isBlocks_empty⟩
      simpa only [Grown, ByteArray.append_assoc, ByteArray.append_empty, ByteArray.empty_append] using grown
    · exact .inr ⟨closed, fault, d, on_bind_error failed _⟩
  · exact .inr ⟨closed, fault, d, on_bind_error failed _⟩

theorem foldl_append (f : PartEntry → ByteArray) (entries : List PartEntry) (bytes : ByteArray) :
    entries.foldl (fun bytes e => bytes ++ f e) bytes =
      bytes ++ entries.foldl (fun bytes e => bytes ++ f e) .empty := by
  induction entries generalizing bytes with
  | nil => exact ByteArray.append_empty.symm
  | cons e entries ih =>
      rw [List.foldl_cons, ih, List.foldl_cons, ih (_ ++ f e), ByteArray.empty_append, ByteArray.append_assoc]

/-- A finished archive is read back as its parts, of which there must be one. -/
theorem finish_ends (h : Holds sink parts current c) :
    Ends (¬Sink.Open sink.content sink) (finish.on c) fun d => ∃ archive, Grown sink archive d ∧
      (parts ++ current.toList ≠ [] →
        parts? (sink.content ++ archive) sink.content.size = .ok (parts ++ current.toList)) := by
  obtain ⟨d, ended, archive, tail, grown, complete, listed, underway⟩ | ⟨closed, fault, d, failed⟩ := endPart_ends h
  · obtain ⟨before, entries, entry⟩ := d
    cases underway
    let directory := entries.foldl (fun bytes e => bytes ++ directoryRecord e) ByteArray.empty
    rw [finish, on_bind_ok ended, on_get_bind]
    obtain ⟨d, wrote, sink₁, rfl, grown⟩ | ⟨closed, fault, d, failed⟩ := emit_ends grown directory
    · obtain ⟨d, wroteEnd, sink₂, rfl, grown⟩ | ⟨closed, fault, d, failed⟩ :=
        emit_ends grown (endRecord entries.length directory.size before.size)
      · refine .inl ⟨_, (on_bind_ok wrote _).trans wroteEnd,
          archive ++ (directory ++ endRecord entries.length directory.size before.size), ?_, fun nonempty => ?_⟩
        · simpa only [ByteArray.append_assoc, ByteArray.empty_append] using grown
        · cases entries with
          | nil => exact absurd (List.length_eq_zero_iff.mp listed.symm) nonempty
          | cons e entries =>
              have first := foldl_append directoryRecord entries (directoryRecord e)
              rw [show directory = directoryRecord e ++ _ by simpa [directory] using first, ByteArray.append_assoc]
              exact parts?_of_isParts complete sink.content _
      · exact .inr ⟨closed, fault, d, (on_bind_ok wrote _).trans failed⟩
    · exact .inr ⟨closed, fault, d, on_bind_error failed _⟩
  · exact .inr ⟨closed, fault, d, on_bind_error failed _⟩

/-! ## The archives of a program that runs -/

/-- All parts so far, the last of them under way. -/
def HoldsAll (sink : Sink) (parts : List Part) (c : Container) : Prop :=
  ∃ complete current, parts = complete ++ current.toList ∧ Holds sink complete current c ∧
    (current = none → complete = [])

theorem HoldsAll.write_ends {name : String} {large : Bool} {x : ByteArray} (bytes : ByteArray)
    (h : HoldsAll sink (parts ++ [⟨name, true, large, x⟩]) c) :
    Ends (¬Sink.Open sink.content sink) ((write bytes).on c)
      (HoldsAll sink (parts ++ [⟨name, true, large, x ++ bytes⟩])) := by
  obtain ⟨complete, current, split, holds, first⟩ := h
  cases current with
  | none =>
      rw [first rfl] at split
      simp at split
  | some part =>
      obtain ⟨rfl, same⟩ := List.append_inj' split rfl
      obtain rfl := List.singleton_inj.mp same
      exact (Container.write_ends bytes holds).imp fun d holds => ⟨parts, _, rfl, holds, nofun⟩

theorem HoldsAll.startPart_ends (name : String) (short : name.utf8ByteSize < 2 ^ 16) (large : Bool)
    (h : HoldsAll sink parts c) :
    Ends (¬Sink.Open sink.content sink) ((startPart name large).on c)
      (HoldsAll sink (parts ++ [⟨name, true, large, .empty⟩])) := by
  obtain ⟨complete, current, rfl, holds, -⟩ := h
  exact (Container.startPart_ends name short large holds).imp fun d holds => ⟨_, _, rfl, holds, nofun⟩

theorem HoldsAll.flush_ends (h : HoldsAll sink parts c) :
    Ends (¬Sink.Open sink.content sink) (flush.on c) (HoldsAll sink parts) := by
  obtain ⟨complete, current, split, holds, first⟩ := h
  exact (Container.flush_ends holds).imp fun d holds => ⟨complete, current, split, holds, first⟩

theorem holdsAll_of_given {w : Zip.Writer} (given : Zip.Given sink parts w) : HoldsAll sink parts w := by
  induction given with
  | onto => exact ⟨[], none, rfl, holds_into sink, fun _ => rfl⟩
  | started _ short ran ih => exact (ih.startPart_ends _ short _).held (through_of_failingAs ran)
  | wrote bytes _ ran ih => exact (ih.write_ends bytes).held ran
  | flushed _ ran ih => exact ih.flush_ends.held ran

theorem zip_finish (c : Container) : Zip.finish c = ((finish.on c).1.mapError .io, (finish.on c).2.sink) := rfl

instance lawful : LawfulZip where
  parts_finish given nonempty ended := by
    obtain ⟨complete, current, rfl, holds, -⟩ := holdsAll_of_given given
    obtain ⟨d, finished, archive, grown, read⟩ | ⟨-, fault, d, failed⟩ := finish_ends holds
    · rw [zip_finish, finished] at ended
      cases ended
      rw [grown]
      exact ⟨archive, rfl, read nonempty⟩
    · rw [zip_finish, failed] at ended
      cases ended
  startPart_open large given opened short _ := by
    obtain ⟨d, started⟩ := ((holdsAll_of_given given).startPart_ends _ short large).through (not_not_intro opened)
    exact ⟨d, on_failingAs_of started _⟩
  write_open bytes given opened _ := ((holdsAll_of_given given).write_ends bytes).through (not_not_intro opened)
  flush_open given opened := (holdsAll_of_given given).flush_ends.through (not_not_intro opened)
  finish_open given opened := by
    obtain ⟨_, _, rfl, holds, -⟩ := holdsAll_of_given given
    obtain ⟨d, finished, archive, grown, -⟩ := (finish_ends holds).comes (not_not_intro opened)
    refine ⟨d.sink, by rw [zip_finish, finished]; rfl, ?_⟩
    rw [grown]
    exact ⟨opened.1, opened.2.1, rfl⟩

end SheetExport.Container
