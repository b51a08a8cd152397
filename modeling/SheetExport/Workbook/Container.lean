import SheetExport.Number.Natural
import SheetExport.Workbook.Checksum
import SheetExport.Workbook.Stored
import SheetExport.Workbook.Zip

/-!
# Archives without compression

A `Container` writes parts one after another to a sink, as a ZIP archive that can be written without
going back: sizes and checksums follow the data of a part and are repeated in the directory at the
end. The data of a part are deflate blocks without compression. A part may be declared large, which
gives it sizes of 64 bits. `Container.parts?` reads such an archive back. Both together are the archives
of a program that runs.
-/

namespace SheetExport

structure PartEntry where
  name : String
  /-- Sizes have 64 bits. -/
  large : Bool
  offset : Nat
  checksum : Checksum
  /-- The number of bytes of the part itself. -/
  size : Nat
  /-- The number of bytes that they take in the archive. -/
  packed : Nat

structure Container where
  sink : Sink
  /-- The parts that are complete, in the order of the archive. -/
  entries : List PartEntry
  current : Option PartEntry

namespace Container

open Stored

/-- Method 8 is deflate. -/
def deflateMethod : Nat := 8

/-- The first of January 1980, the earliest date that an archive can hold. -/
def earliestDate : Nat := 0x21

/-- The tag of the extra field that holds sizes of 64 bits. -/
def largeTag : Nat := 1

/-- The extra field of a large part whose sizes are still to come. -/
def largeField : List UInt8 := littleEndian 2 largeTag ++ littleEndian 2 16 ++ littleEndian 16 0

def localHeader (e : PartEntry) : ByteArray :=
  let unknown := if e.large then 2 ^ 32 - 1 else 0
  let extra := if e.large then largeField else []
  record [(4, 0x04034b50), (2, if e.large then 45 else 20), (2, 8), (2, deflateMethod), (2, 0),
    (2, earliestDate), (4, 0), (4, unknown), (4, unknown), (2, e.name.utf8ByteSize),
    (2, extra.length)] e.name extra

/-- The sizes and the checksum after a part. -/
def descriptor (e : PartEntry) : ByteArray :=
  let width := if e.large then 8 else 4
  record [(4, 0x08074b50), (4, e.checksum.value.toNat), (width, e.packed), (width, e.size)] "" []

def directoryRecord (e : PartEntry) : ByteArray :=
  record [(4, 0x02014b50), (2, 45), (2, if e.large then 45 else 20), (2, 8), (2, deflateMethod),
    (2, 0), (2, earliestDate), (4, e.checksum.value.toNat), (4, e.packed), (4, e.size),
    (2, e.name.utf8ByteSize), (2, 0), (2, 0), (2, 0), (2, 0), (4, 0), (4, e.offset)] e.name []

def endRecord (count size offset : Nat) : ByteArray :=
  record [(4, 0x06054b50), (2, 0), (2, 0), (2, count), (2, count), (4, size), (4, offset), (2, 0)]
    "" []

def into (sink : Sink) : Container := ⟨sink, [], none⟩

/-- Bytes of the archive itself. -/
def emit (bytes : ByteArray) : ActionOf IoFault Container Unit :=
  (Sink.write bytes).within Container.sink fun sink c => { c with sink }

/-- Adds bytes to the part that is being written. -/
def write (bytes : ByteArray) : ActionOf IoFault Container Unit := do
  let blocks := storedBlocks bytes
  emit blocks
  modify fun c => { c with current := c.current.map fun e =>
    { e with checksum := e.checksum.add bytes, size := e.size + bytes.size,
             packed := e.packed + blocks.size } }

def flush : ActionOf IoFault Container Unit :=
  Sink.flush.within Container.sink fun sink c => { c with sink }

def endPart : ActionOf IoFault Container Unit := do
  match (← get).current with
  | none => pure ()
  | some e =>
      let last := storedBlock true .empty
      let e := { e with packed := e.packed + last.size }
      emit (last ++ descriptor e)
      modify fun c => { c with entries := c.entries ++ [e], current := none }

def startPart (name : String) (large : Bool) : ActionOf IoFault Container Unit := do
  endPart
  let e : PartEntry := ⟨name, large, (← get).sink.size, .initial, 0, 0⟩
  emit (localHeader e)
  modify fun c => { c with current := some e }

def finish : ActionOf IoFault Container Unit := do
  endPart
  let c ← get
  let directory := c.entries.foldl (fun bytes e => bytes ++ directoryRecord e) .empty
  emit directory
  emit (endRecord c.entries.length directory.size c.sink.size)

def readParts (bytes : ByteArray) : Nat → Nat → Option (List Part)
  | 0, _ => none
  | parts + 1, place =>
      if numberAt bytes place 4 ≠ 0x04034b50 then
        if numberAt bytes place 4 = 0x02014b50 then some [] else none
      else do
        let nameSize := numberAt bytes (place + 26) 2
        let extraSize := numberAt bytes (place + 28) 2
        let name ← String.fromUTF8? (bytes.extract (place + 30) (place + 30 + nameSize))
        let extra := place + 30 + nameSize
        let large : Bool := 2 ≤ extraSize && numberAt bytes extra 2 = largeTag
        let (content, next) ← readBlocks bytes bytes.size (extra + extraSize) .empty
        let rest ← readParts bytes parts (next + if large then 24 else 16)
        pure (⟨name, numberAt bytes (place + 8) 2 = deflateMethod, large, content⟩ :: rest)

/-- The parts of the archive that begins at a byte, in its order. -/
def parts? (bytes : ByteArray) (start : Nat) : Except ZipFault (List Part) :=
  match readParts bytes bytes.size start with
  | some parts => .ok parts
  | none => .error (.other "invalid Zip archive")

instance zip : Zip where
  Writer := Container
  onto := into
  startPart name large := (startPart name large).failingAs .io
  write
  flush
  finish c :=
    let (outcome, c) := finish.on c
    (outcome.mapError .io, c.sink)
  abandon := Container.sink
  parts?

end Container

end SheetExport
