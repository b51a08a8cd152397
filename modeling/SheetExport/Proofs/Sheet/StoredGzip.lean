import SheetExport.Proofs.Sheet.Spill
import SheetExport.Proofs.Workbook.Stored
import SheetExport.Sheet.StoredGzip

/-! # Gzip without compression is a codec

Behind the header stand blocks that are read as the bytes written so far; the checksum and the size that are kept
beside them are those of these bytes. With the last block and the trailer the file decodes to the bytes.
-/

namespace SheetExport

theorem Checksum.add_append (c : Checksum) (x y : ByteArray) : c.add (x ++ y) = (c.add x).add y := by
  simp [add, ByteArray.data_append]

namespace StoredGzip

open ActionOf Stored

variable {disk : Disk} {x content : ByteArray} {g : StoredGzip}

/-- What has to be written before the next bytes. -/
def due (g : StoredGzip) : ByteArray := if g.begun then .empty else header

/-- What was written so far stands for the bytes. -/
def Encodes (disk : Disk) (x : ByteArray) (g : StoredGzip) : Prop :=
  ∃ packed content, IsBlocks packed x ∧ g.file.Holding disk content ∧ content ++ g.due = header ++ packed ∧
    g.checksum = Checksum.initial.add x ∧ g.size = x.size

theorem encodes_onto (disk : Disk) : Encodes disk .empty (onto (.empty disk)) :=
  ⟨.empty, .empty, isBlocks_empty, ⟨rfl, id⟩, by rw [ByteArray.append_empty, ByteArray.empty_append]; rfl, rfl, rfl⟩

theorem emit_ends (bytes : ByteArray) (held : g.file.Holding disk content) :
    Ends (disk ≠ .sound) ((emit bytes).on g) fun h =>
      ∃ file, h = { g with begun := true, file } ∧ file.Holding disk (content ++ g.due ++ bytes) := by
  have same : (emit bytes).on g = (((ScratchFile.write (g.due ++ bytes)).on g.file).1,
      { g with begun := true, file := ((ScratchFile.write (g.due ++ bytes)).on g.file).2 }) := rfl
  rw [same, ByteArray.append_assoc]
  obtain ⟨file, wrote, held⟩ | ⟨unsound, fault, file, failed⟩ := ScratchFile.call_ends _ _ held
  · exact .inl ⟨_, by rw [ScratchFile.write, wrote], file, rfl, held⟩
  · exact .inr ⟨unsound, fault, _, by rw [ScratchFile.write, failed]⟩

theorem write_ends (bytes : ByteArray) (h : Encodes disk x g) :
    Ends (disk ≠ .sound) ((write bytes).on g) (Encodes disk (x ++ bytes)) := by
  obtain ⟨packed, content, blocks, held, split, checksum, size⟩ := h
  obtain ⟨t, wrote, file, rfl, held⟩ | ⟨unsound, fault, t, failed⟩ := emit_ends (storedBlocks bytes) held
  · refine .inl ⟨_, ActionOf.on_bind_ok wrote _, packed ++ storedBlocks bytes, _,
      blocks.append (isBlocks_storedBlocks bytes), held, ?_, ?_, ?_⟩
    · rw [split, due, if_pos rfl, ByteArray.append_empty, ByteArray.append_assoc]
    · rw [Checksum.add_append, ← checksum]
    · rw [ByteArray.size_append, ← size]
  · exact .inr ⟨unsound, fault, t, ActionOf.on_bind_error failed _⟩

theorem flush_ends (h : Encodes disk x g) : Ends (disk ≠ .sound) (flush.on g) (Encodes disk x) := by
  obtain ⟨packed, content, blocks, held, rest⟩ := h
  rw [flush, ActionOf.on_within]
  obtain ⟨file, flushed, held⟩ | ⟨unsound, fault, file, failed⟩ := ScratchFile.call_ends _ _ held
  · exact .inl ⟨{ g with file }, by rw [ScratchFile.flush, flushed], packed, content, blocks, held, rest⟩
  · exact .inr ⟨unsound, fault, { g with file }, by rw [ScratchFile.flush, failed]⟩

theorem decode_ended {packed : ByteArray} (blocks : IsBlocks packed x) :
    decode (header ++ packed ++ (storedBlock true .empty ++ trailer (Checksum.initial.add x) x.size)) = (x, none) := by
  obtain ⟨file, same⟩ : ∃ file, file = header ++ (packed ++ storedBlock true .empty) ++
    trailer (Checksum.initial.add x) x.size := ⟨_, rfl⟩
  have stands : At file 0 (header ++ (packed ++ storedBlock true .empty) ++
      trailer (Checksum.initial.add x) x.size) := by
    rw [← same]
    exact At.self file
  have begins := stands.left.left.extract
  have reads := readBlocks_all blocks stands.left.right
  have ends := stands.right.extract
  have size : 0 + (header ++ (packed ++ storedBlock true .empty)).size +
      (trailer (Checksum.initial.add x) x.size).size = file.size := by
    rw [same, Nat.zero_add, ByteArray.size_append (b := trailer _ _)]
  rw [size, ByteArray.size_append] at ends
  simp only [Nat.zero_add, show header.size = headerSize from rfl] at begins reads ends
  rw [show header ++ packed ++ (storedBlock true .empty ++ trailer (Checksum.initial.add x) x.size) = file by
    simp only [same, ByteArray.append_assoc], decode, if_neg fun differs => differs (congrArg _ begins), reads]
  exact if_pos (congrArg _ ends)

theorem finish_ends (h : Encodes disk x g) :
    Ends (disk ≠ .sound) (gzip.finish g) fun f => f.Holding disk f.content ∧ decode f.content = (x, none) := by
  obtain ⟨packed, content, blocks, held, split, checksum, size⟩ := h
  have ran : gzip.finish g = (((emit (storedBlock true .empty ++ trailer g.checksum g.size)).on g).1,
      ((emit (storedBlock true .empty ++ trailer g.checksum g.size)).on g).2.file) := rfl
  rw [ran]
  obtain ⟨t, wrote, file, rfl, whole, sound⟩ | ⟨unsound, fault, t, failed⟩ :=
    emit_ends (storedBlock true .empty ++ trailer g.checksum g.size) held
  · refine .inl ⟨file, by rw [wrote], ⟨rfl, sound⟩, ?_⟩
    rw [whole, split, checksum, size]
    exact decode_ended blocks
  · exact .inr ⟨unsound, fault, t.file, by rw [failed]⟩

theorem encodes_of_given {e : Gzip.Encoder} (given : Gzip.Given disk x e) : Encodes disk x e := by
  induction given with
  | onto => exact encodes_onto disk
  | wrote bytes _ ran ih => exact (write_ends bytes ih).held ran
  | flushed _ ran ih => exact (flush_ends ih).held ran

instance lawful : LawfulGzip where
  decode_finish given ended := ((finish_ends (encodes_of_given given)).held ended).2
  write_sound bytes given := (write_ends bytes (encodes_of_given given)).through (not_not_intro rfl)
  flush_sound given := (flush_ends (encodes_of_given given)).through (not_not_intro rfl)
  finish_sound given := by
    obtain ⟨f, ended, held, -⟩ := (finish_ends (encodes_of_given given)).comes (not_not_intro rfl)
    exact ⟨f, ended, held.2 rfl⟩

end StoredGzip

end SheetExport
