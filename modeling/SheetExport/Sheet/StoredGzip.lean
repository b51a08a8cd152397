import SheetExport.Number.Natural
import SheetExport.Sheet.Gzip
import SheetExport.Workbook.Checksum
import SheetExport.Workbook.Stored

/-!
# Gzip without compression

A `StoredGzip` writes bytes to a file as deflate blocks that hold them as they are, between the header and the
checksum of the gzip format. It is the codec of a program that runs.
-/

namespace SheetExport

structure StoredGzip where
  file : ScratchFile
  /-- The header was written. -/
  begun : Bool
  checksum : Checksum
  /-- The number of bytes written so far. -/
  size : Nat

namespace StoredGzip

open Stored

/-- No name, no time and no known system. -/
def header : ByteArray := record [(2, 0x8b1f), (2, 8), (4, 0), (1, 0), (1, 255)] "" []

def headerSize : Nat := 10

/-- The checksum and the size of the bytes. -/
def trailer (checksum : Checksum) (size : Nat) : ByteArray := record [(4, checksum.value.toNat), (4, size)] "" []

def onto (file : ScratchFile) : StoredGzip := ⟨file, false, .initial, 0⟩

/-- Bytes of the format itself, after the header if that is still to come. -/
def emit (bytes : ByteArray) : ActionOf IoFault StoredGzip Unit := do
  let due := if (← get).begun then .empty else header
  modify fun g => { g with begun := true }
  (ScratchFile.write (due ++ bytes)).within file fun file g => { g with file }

def write (bytes : ByteArray) : ActionOf IoFault StoredGzip Unit := do
  emit (storedBlocks bytes)
  modify fun g => { g with checksum := g.checksum.add bytes, size := g.size + bytes.size }

def flush : ActionOf IoFault StoredGzip Unit := ScratchFile.flush.within file fun file g => { g with file }

def finish : ActionOf IoFault StoredGzip Unit := do
  let g ← get
  emit (storedBlock true .empty ++ trailer g.checksum g.size)

def decode (bytes : ByteArray) : ByteArray × Option IoFault :=
  if (bytes.extract 0 headerSize).data ≠ header.data then (.empty, some (.other "invalid gzip header"))
  else match readBlocks bytes bytes.size headerSize .empty with
    | some (data, next) =>
        if (bytes.extract next bytes.size).data = (trailer (Checksum.initial.add data) data.size).data then (data, none)
        else (data, some (.other "corrupt gzip stream does not have a matching checksum"))
    | none => (.empty, some (.other "corrupt deflate stream"))

instance gzip : Gzip where
  Encoder := StoredGzip
  onto
  write
  flush
  finish g :=
    let (outcome, g) := finish.on g
    (outcome, g.file)
  decode

end StoredGzip

end SheetExport
