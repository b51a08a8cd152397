import SheetExport.Workbook.Stored

/-! # Bytes that read back

What stands at a place among bytes decides what is read there. Numbers, records and blocks are read from the left, so
it is said of a piece what is taken from it wherever it stands and whatever follows: pieces that are read as some data
can then be put one after another.
-/

namespace SheetExport.Stored


/-- A chunk of bytes stands at a place. -/
def At (bytes : ByteArray) (place : Nat) (chunk : ByteArray) : Prop :=
  chunk.data.toList <+: bytes.data.toList.drop place

namespace At

variable {bytes chunk before after : ByteArray} {place : Nat}

theorem self (bytes : ByteArray) : At bytes 0 bytes := List.prefix_rfl

theorem left (h : At bytes place (before ++ after)) : At bytes place before := by
  rw [At, ByteArray.toList_data_append] at h
  exact (List.prefix_append _ _).trans h

theorem right (h : At bytes place (before ++ after)) : At bytes (place + before.size) after := by
  obtain ⟨rest, split⟩ := h
  refine ⟨rest, ?_⟩
  rw [← List.drop_drop, ← split, ByteArray.toList_data_append, List.append_assoc,
    show before.size = before.data.toList.length from rfl, List.drop_left]

theorem extract (h : At bytes place chunk) : bytes.extract place (place + chunk.size) = chunk := by
  obtain ⟨rest, split⟩ := h
  apply ByteArray.ext
  apply Array.toList_inj.mp
  rw [ByteArray.data_extract, Array.toList_extract, List.extract_eq_take_drop, ← split, Nat.add_sub_cancel_left,
    show chunk.size = chunk.data.toList.length from rfl, List.take_left]

theorem getElem? (h : At bytes place chunk) {i : Nat} (inside : i < chunk.size) :
    bytes[place + i]? = chunk.data.toList[i]? := by
  obtain ⟨rest, split⟩ := h
  have byte : bytes[place + i]? = bytes.data.toList[place + i]? := by
    by_cases bound : place + i < bytes.size
    · rw [getElem?_pos bytes _ bound, List.getElem?_eq_getElem bound]; rfl
    · rw [getElem?_neg bytes _ bound, List.getElem?_eq_none (Nat.le_of_not_lt bound)]
  rw [byte, ← List.getElem?_drop, ← split, List.getElem?_append_left inside]

theorem size_le (h : At bytes place chunk) : chunk.size ≤ bytes.size :=
  Nat.le_trans (List.IsPrefix.length_le h) (by rw [List.length_drop]; exact Nat.sub_le _ _)

end At

/-! ## Numbers -/

theorem length_littleEndian (width n : Nat) : (littleEndian width n).length = width := by
  rw [littleEndian, List.length_map, List.length_range]

theorem numberAt_of_bytes {bytes : ByteArray} {place width n : Nat}
    (h : ∀ i, i < width → bytes[place + i]? = some (UInt8.ofNat (n / 256 ^ i))) :
    numberAt bytes place width = n % 256 ^ width := by
  induction width with
  | zero => simp [numberAt, Nat.mod_one]
  | succ width ih =>
      have step : numberAt bytes place (width + 1) =
          numberAt bytes place width + (bytes[place + width]?.getD 0).toNat * 256 ^ width := by
        simp only [numberAt, List.range_succ, List.foldl_append, List.foldl_cons, List.foldl_nil]
      rw [step, ih fun i lt => h i (Nat.lt_succ_of_lt lt), h width (Nat.lt_succ_self width), Option.getD_some,
        UInt8.toNat_ofNat', Nat.mul_comm]
      exact (Nat.mod_pow_succ ..).symm

def fieldBytes (fields : List (Nat × Nat)) : ByteArray :=
  ⟨(fields.flatMap fun (width, n) => littleEndian width n).toArray⟩

theorem fieldBytes_append (fields more : List (Nat × Nat)) :
    fieldBytes (fields ++ more) = fieldBytes fields ++ fieldBytes more := by
  apply ByteArray.ext
  simp [fieldBytes]

theorem size_fieldBytes (fields : List (Nat × Nat)) : (fieldBytes fields).size = (fields.map Prod.fst).sum := by
  induction fields with
  | nil => rfl
  | cons field fields ih =>
      rw [show field :: fields = [field] ++ fields from rfl, fieldBytes_append, ByteArray.size_append, ih,
        List.map_append, List.sum_append]
      simp [fieldBytes, ByteArray.size, length_littleEndian]

theorem record_eq (fields : List (Nat × Nat)) (name : String) (rest : List UInt8) :
    record fields name rest = fieldBytes fields ++ name.toUTF8 ++ ⟨rest.toArray⟩ := rfl

theorem size_record (fields : List (Nat × Nat)) (name : String) (rest : List UInt8) :
    (record fields name rest).size = (fields.map Prod.fst).sum + name.utf8ByteSize + rest.length := by
  rw [record_eq, ByteArray.size_append, ByteArray.size_append, size_fieldBytes]
  rfl

namespace At

variable {bytes : ByteArray} {place : Nat} {fields : List (Nat × Nat)} {text : String} {further : List UInt8}

theorem number {width n : Nat} (h : At bytes place (fieldBytes [(width, n)])) :
    numberAt bytes place width = n % 256 ^ width := by
  apply numberAt_of_bytes
  intro i lt
  have listed : (fieldBytes [(width, n)]).data.toList = littleEndian width n := by simp [fieldBytes]
  rw [h.getElem? (by rwa [ByteArray.size, ← Array.length_toList, listed, length_littleEndian]), listed,
    littleEndian, List.getElem?_map, List.getElem?_range lt]
  rfl

/-- A number in a record stands after those before it. -/
theorem field (h : At bytes place (record fields text further)) {i width n : Nat}
    (listed : fields[i]? = some (width, n)) :
    numberAt bytes (place + ((fields.take i).map Prod.fst).sum) width = n % 256 ^ width := by
  obtain ⟨lt, eq⟩ := List.getElem?_eq_some_iff.mp listed
  rw [record_eq, ← List.take_append_drop i fields, List.drop_eq_getElem_cons lt, fieldBytes_append,
    show fields[i] :: fields.drop (i + 1) = [fields[i]] ++ fields.drop (i + 1) from rfl, fieldBytes_append, eq] at h
  rw [← size_fieldBytes]
  exact h.left.left.right.left.number

theorem name (h : At bytes place (record fields text further)) :
    At bytes (place + (fields.map Prod.fst).sum) text.toUTF8 := by
  rw [← size_fieldBytes]
  exact h.left.right

theorem rest (h : At bytes place (record fields text further)) :
    At bytes (place + (fields.map Prod.fst).sum + text.utf8ByteSize) ⟨further.toArray⟩ := by
  rw [record_eq] at h
  have tail := h.right
  rw [ByteArray.size_append, size_fieldBytes, ← Nat.add_assoc] at tail
  exact tail

end At

/-! ## Blocks -/

/-- Bytes that are read as data, in blocks of which none is the last. -/
def IsBlocks (packed data : ByteArray) : Prop :=
  ∃ count, count ≤ packed.size ∧ ∀ bytes place fuel before, At bytes place packed →
    readBlocks bytes (fuel + count) place before = readBlocks bytes fuel (place + packed.size) (before ++ data)

theorem size_storedBlock (last : Bool) (data : ByteArray) : (storedBlock last data).size = 5 + data.size := by
  rw [storedBlock, ByteArray.size_append, size_record]
  rfl

theorem readBlocks_storedBlock {bytes data : ByteArray} {place : Nat} {last : Bool} (fits : data.size ≤ blockLimit)
    (h : At bytes place (storedBlock last data)) (fuel : Nat) (before : ByteArray) :
    readBlocks bytes (fuel + 1) place before =
      if last then some (before ++ data, place + (5 + data.size))
      else readBlocks bytes fuel (place + (5 + data.size)) (before ++ data) := by
  have flag : numberAt bytes place 1 = (if last then 1 else 0) % 256 := h.left.field (i := 0) rfl
  have length : numberAt bytes (place + 1) 2 = data.size % 256 ^ 2 := h.left.field (i := 1) rfl
  have content := h.right
  rw [Nat.mod_eq_of_lt (show data.size < 256 ^ 2 from Nat.lt_succ_of_le fits)] at length
  rw [size_record] at content
  rw [readBlocks, length, flag, show place + 5 + data.size = place + (5 + data.size) from Nat.add_assoc _ _ _]
  have taken := content.extract
  cases last <;> simp_all [Nat.add_assoc]

theorem isBlocks_empty : IsBlocks .empty .empty :=
  ⟨0, Nat.le_refl 0, fun _ _ _ _ _ => by simp⟩

theorem isBlocks_storedBlock {data : ByteArray} (fits : data.size ≤ blockLimit) :
    IsBlocks (storedBlock false data) data := by
  refine ⟨1, by rw [size_storedBlock]; omega, fun bytes place fuel before h => ?_⟩
  rw [readBlocks_storedBlock fits h, size_storedBlock]
  rfl

theorem IsBlocks.append {packed data packed' data' : ByteArray} (h : IsBlocks packed data)
    (h' : IsBlocks packed' data') : IsBlocks (packed ++ packed') (data ++ data') := by
  obtain ⟨count, le, reads⟩ := h
  obtain ⟨count', le', reads'⟩ := h'
  refine ⟨count' + count, by rw [ByteArray.size_append]; omega, fun bytes place fuel before h => ?_⟩
  rw [← Nat.add_assoc, reads bytes place _ before h.left, reads' bytes _ fuel _ h.right, ByteArray.size_append,
    Nat.add_assoc, ByteArray.append_assoc]

theorem isBlocks_storedBlocks (data : ByteArray) : IsBlocks (storedBlocks data) data := by
  let blocks count := (List.range count).foldl (fun blocks i =>
    blocks ++ storedBlock false (data.extract (i * blockLimit) ((i + 1) * blockLimit))) ByteArray.empty
  have upTo : ∀ count, IsBlocks (blocks count) (data.extract 0 (count * blockLimit)) := by
    intro count
    induction count with
    | zero =>
        rw [Nat.zero_mul, ByteArray.extract_same]
        exact isBlocks_empty
    | succ count ih =>
        have step : blocks (count + 1) = blocks count ++
            storedBlock false (data.extract (count * blockLimit) ((count + 1) * blockLimit)) := by
          simp only [blocks, List.range_succ, List.foldl_append, List.foldl_cons, List.foldl_nil]
        rw [step, ByteArray.extract_eq_extract_append_extract (count * blockLimit) (Nat.zero_le _)
          (Nat.mul_le_mul_right _ (Nat.le_succ count))]
        exact ih.append (isBlocks_storedBlock (by rw [ByteArray.size_extract, Nat.succ_mul]; omega))
  have enough : data.size ≤ (data.size + blockLimit - 1) / blockLimit * blockLimit := by
    simp only [blockLimit]
    omega
  have all := upTo ((data.size + blockLimit - 1) / blockLimit)
  rwa [← Nat.max_eq_left enough, ByteArray.extract_zero_max_size] at all

theorem readBlocks_all {bytes packed data : ByteArray} {place : Nat} (h : IsBlocks packed data)
    (stands : At bytes place (packed ++ storedBlock true .empty)) :
    readBlocks bytes bytes.size place .empty = some (data, place + (packed ++ storedBlock true .empty).size) := by
  obtain ⟨count, le, reads⟩ := h
  have room := stands.size_le
  rw [ByteArray.size_append, size_storedBlock] at room
  obtain ⟨spare, enough⟩ := Nat.exists_eq_add_of_le (show count + 1 ≤ bytes.size by omega)
  rw [show readBlocks bytes bytes.size = readBlocks bytes (spare + 1 + count) by rw [enough]; congr 1; omega,
    reads _ _ _ _ stands.left, readBlocks_storedBlock (Nat.zero_le _) stands.right, ByteArray.size_append,
    size_storedBlock]
  simp [Nat.add_assoc]

end SheetExport.Stored
