import SheetExport.Proofs.Workbook.Stored
import SheetExport.Workbook.Container

/-! # Bytes of an archive that read back as its parts

The reader of parts goes through an archive from the left. It is said of a piece of an archive which parts are read
from it, wherever it stands and whatever follows, so that pieces can be put one after another.
-/

namespace SheetExport.Container

open Stored

/-- Bytes of an archive that are read as parts. -/
def IsParts (archive : ByteArray) (parts : List Part) : Prop :=
  parts.length ≤ archive.size ∧ ∀ bytes place fuel, At bytes place archive →
    readParts bytes (fuel + parts.length) place =
      (readParts bytes fuel (place + archive.size)).map (parts ++ ·)

theorem isParts_empty : IsParts .empty [] :=
  ⟨Nat.le_refl 0, fun _ _ _ _ => by simp⟩

theorem IsParts.append {archive archive' : ByteArray} {parts parts' : List Part} (h : IsParts archive parts)
    (h' : IsParts archive' parts') : IsParts (archive ++ archive') (parts ++ parts') := by
  obtain ⟨le, reads⟩ := h
  obtain ⟨le', reads'⟩ := h'
  refine ⟨by rw [List.length_append, ByteArray.size_append]; omega, fun bytes place fuel h => ?_⟩
  rw [List.length_append, Nat.add_comm parts.length, ← Nat.add_assoc, reads bytes place _ h.left,
    reads' bytes _ fuel h.right, ByteArray.size_append, Nat.add_assoc, Option.map_map]
  congr 1
  funext rest
  exact (List.append_assoc ..).symm

def headerFields (e : PartEntry) : List (Nat × Nat) :=
  [(4, 0x04034b50), (2, if e.large then 45 else 20), (2, 8), (2, deflateMethod), (2, 0), (2, earliestDate), (4, 0),
    (4, if e.large then 2 ^ 32 - 1 else 0), (4, if e.large then 2 ^ 32 - 1 else 0), (2, e.name.utf8ByteSize),
    (2, if e.large then 20 else 0)]

theorem localHeader_eq (e : PartEntry) :
    localHeader e = record (headerFields e) e.name (if e.large then largeField else []) := by
  cases large : e.large with
  | true => simp [localHeader, headerFields, large]; rfl
  | false => simp [localHeader, headerFields, large]

theorem size_descriptor (e : PartEntry) : (descriptor e).size = if e.large then 24 else 16 := by
  rw [descriptor, size_record]
  cases e.large <;> rfl

theorem fromUTF8?_toUTF8 (s : String) : String.fromUTF8? s.toUTF8 = some s := by
  exact dif_pos s.isValidUTF8

/-- A part with its header before it and its descriptor after it. -/
theorem isParts_part {packed data : ByteArray} (e e' : PartEntry) (short : e.name.utf8ByteSize < 256 ^ 2)
    (same : e'.large = e.large) (h : IsBlocks packed data) :
    IsParts (localHeader e ++ (packed ++ storedBlock true .empty) ++ descriptor e')
      [⟨e.name, true, e.large, data⟩] := by
  refine ⟨?_, fun bytes place fuel stands => ?_⟩
  · simp only [ByteArray.size_append, size_storedBlock, List.length_singleton]
    omega
  have header := stands.left.left
  have blocks := readBlocks_all h stands.left.right
  rw [localHeader_eq] at header blocks
  have magic : numberAt bytes place 4 = 0x04034b50 := header.field (i := 0) rfl
  have method : numberAt bytes (place + 8) 2 = deflateMethod := header.field (i := 3) rfl
  have nameSize : numberAt bytes (place + 26) 2 = e.name.utf8ByteSize :=
    (header.field (i := 9) rfl).trans (Nat.mod_eq_of_lt short)
  have extraSize : numberAt bytes (place + 28) 2 = if e.large then 20 else 0 :=
    (header.field (i := 10) rfl).trans (by split <;> rfl)
  have name : bytes.extract (place + 30) (place + 30 + e.name.utf8ByteSize) = e.name.toUTF8 := header.name.extract
  have large : (2 ≤ (if e.large then 20 else 0) &&
      numberAt bytes (place + 30 + e.name.utf8ByteSize) 2 = largeTag : Bool) = e.large := by
    have extra : At bytes (place + 30 + e.name.utf8ByteSize) _ := header.rest
    cases isLarge : e.large with
    | false => rfl
    | true =>
        rw [isLarge, if_pos rfl, show (⟨largeField.toArray⟩ : ByteArray) =
          fieldBytes [(2, largeTag)] ++ ⟨(littleEndian 2 16 ++ littleEndian 16 0).toArray⟩ from rfl] at extra
        rw [extra.left.number]
        rfl
  have headerSize : (record (headerFields e) e.name (if e.large then largeField else [])).size =
      30 + e.name.utf8ByteSize + if e.large then 20 else 0 := by
    rw [size_record]
    split <;> rfl
  rw [headerSize, ← Nat.add_assoc, ← Nat.add_assoc] at blocks
  have size : (localHeader e ++ (packed ++ storedBlock true .empty) ++ descriptor e').size =
      30 + e.name.utf8ByteSize + (if e.large then 20 else 0) + (packed ++ storedBlock true .empty).size +
        if e.large then 24 else 16 := by
    rw [ByteArray.size_append, ByteArray.size_append, localHeader_eq, headerSize, size_descriptor, same]
  rw [size, List.length_singleton, readParts, if_neg (by rw [magic]; decide)]
  simp only [nameSize, extraSize, name, fromUTF8?_toUTF8, blocks, large, method, Option.bind_eq_bind,
    Option.bind_some, decide_true, ← Nat.add_assoc]
  cases readParts bytes fuel _ <;> rfl

/-- The directory after the parts ends the reading. -/
theorem readParts_directory {bytes : ByteArray} {place : Nat} {e : PartEntry}
    (h : At bytes place (directoryRecord e)) (fuel : Nat) : readParts bytes (fuel + 1) place = some [] := by
  have magic : numberAt bytes place 4 = 0x02014b50 := h.field (i := 0) rfl
  rw [readParts, if_pos (by rw [magic]; decide), if_pos magic]

theorem parts?_of_isParts {archive : ByteArray} {parts : List Part} {e : PartEntry}
    (h : IsParts archive parts) (before rest : ByteArray) :
    parts? (before ++ (archive ++ (directoryRecord e ++ rest))) before.size = .ok parts := by
  obtain ⟨le, reads⟩ := h
  have stands := (At.self (before ++ (archive ++ (directoryRecord e ++ rest)))).right
  rw [Nat.zero_add] at stands
  have room : parts.length + 1 ≤ (before ++ (archive ++ (directoryRecord e ++ rest))).size := by
    simp only [ByteArray.size_append, directoryRecord, size_record, List.map_cons, List.sum_cons]
    omega
  obtain ⟨spare, enough⟩ := Nat.exists_eq_add_of_le room
  have read : readParts (before ++ (archive ++ (directoryRecord e ++ rest)))
      (before ++ (archive ++ (directoryRecord e ++ rest))).size before.size = some parts := by
    rw [show readParts _ (before ++ (archive ++ (directoryRecord e ++ rest))).size =
      readParts _ (spare + 1 + parts.length) by rw [enough]; congr 1; omega, reads _ _ _ stands.left,
      readParts_directory stands.right.left]
    simp
  rw [parts?, read]

end SheetExport.Container
