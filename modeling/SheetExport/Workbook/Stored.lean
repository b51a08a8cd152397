/-!
# Bytes in stored blocks

Numbers in records of bytes, and deflate data that hold bytes as they are, in blocks that can be told apart.
-/

namespace SheetExport.Stored

/-- A number in so many bytes, the lowest first. -/
def littleEndian (bytes n : Nat) : List UInt8 :=
  (List.range bytes).map fun i => UInt8.ofNat (n / 256 ^ i)

/-- A record of numbers, each with the bytes it takes, followed by a name and further bytes. -/
def record (fields : List (Nat × Nat)) (name : String) (rest : List UInt8) : ByteArray :=
  ⟨(fields.flatMap fun (bytes, n) => littleEndian bytes n).toArray⟩ ++ name.toUTF8 ++
    ⟨rest.toArray⟩

/-- The greatest number of bytes in a block. -/
def blockLimit : Nat := 65535

def storedBlock (last : Bool) (bytes : ByteArray) : ByteArray :=
  record [(1, if last then 1 else 0), (2, bytes.size), (2, blockLimit - bytes.size)] "" [] ++ bytes

/-- Bytes as blocks, none of them the last. -/
def storedBlocks (bytes : ByteArray) : ByteArray :=
  let count := (bytes.size + blockLimit - 1) / blockLimit
  (List.range count).foldl (fun blocks i =>
    blocks ++ storedBlock false (bytes.extract (i * blockLimit) ((i + 1) * blockLimit))) .empty

/-- The number at a place, the lowest byte first. -/
def numberAt (bytes : ByteArray) (place width : Nat) : Nat :=
  (List.range width).foldl (fun n i => n + (bytes[place + i]?.getD 0).toNat * 256 ^ i) 0

/-- The data of the blocks from a place on, and where they end. -/
def readBlocks (bytes : ByteArray) : Nat → Nat → ByteArray → Option (ByteArray × Nat)
  | 0, _, _ => none
  | blocks + 1, place, data =>
      let length := numberAt bytes (place + 1) 2
      let next := place + 5 + length
      let data := data ++ bytes.extract (place + 5) next
      match numberAt bytes place 1 with
      | 0 => readBlocks bytes blocks next data
      | 1 => some (data, next)
      | _ => none

end SheetExport.Stored
