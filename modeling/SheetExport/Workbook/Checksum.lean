/-!
# Checksums

The cyclic redundancy check of 32 bits that a ZIP container keeps for each of its parts.
-/

namespace SheetExport

/-- One step of the division by the reversed polynomial `0xEDB88320`. -/
def crcStep (c : UInt32) : UInt32 :=
  if c &&& 1 = 1 then (c >>> 1) ^^^ 0xEDB88320 else c >>> 1

/-- The remainders of all bytes. -/
def crcTable : Array UInt32 :=
  (Array.range 256).map fun n => Nat.repeat crcStep 8 (UInt32.ofNat n)

/-- A checksum that is still open. -/
structure Checksum where
  register : UInt32
  deriving DecidableEq, Repr

namespace Checksum

/-- The checksum of no bytes. -/
def initial : Checksum := ⟨0xFFFFFFFF⟩

/-- The checksum with more bytes. -/
def add (c : Checksum) (bytes : ByteArray) : Checksum :=
  ⟨bytes.data.foldl (fun r b =>
    crcTable.getD ((r ^^^ b.toUInt32) &&& 0xFF).toNat 0 ^^^ (r >>> 8)) c.register⟩

def value (c : Checksum) : UInt32 := c.register ^^^ 0xFFFFFFFF

end Checksum

end SheetExport
