import SheetExport.Sink

/-!
# Archives

What is needed of a writer for ZIP archives: it is put onto a sink, given one part after another, and hands the sink
back in the end; and what somebody finds who reads an archive.
-/

namespace SheetExport

/-- Why an archive cannot be written or read. -/
inductive ZipFault where
  | io (fault : IoFault)
  | partNotFound
  /-- Anything else, in the words of whoever reports it. -/
  | other (text : String)

def ZipFault.toError : ZipFault → ExportError
  | .io fault => .io fault
  | .partNotFound => .write "specified file not found in archive"
  | .other text => .write text

/-- A part of an archive as it is read back. -/
structure Part where
  name : String
  deflated : Bool
  /-- Its sizes have 64 bits. -/
  large : Bool
  content : ByteArray

class Zip where
  /-- An archive that is being written. -/
  Writer : Type
  onto : Sink → Writer
  /-- Ends the part before it and begins another, deflated one. A part that may grow to 4 GiB is declared large. -/
  startPart (name : String) (large : Bool) : ActionOf ZipFault Writer Unit
  /-- Adds bytes to the part that was begun last. -/
  write : ByteArray → ActionOf IoFault Writer Unit
  flush : ActionOf IoFault Writer Unit
  /-- Writes the directory of the parts and hands the sink back. -/
  finish : Writer → Except ZipFault Unit × Sink
  /-- The sink that is left when an archive is given up. -/
  abandon : Writer → Sink
  /-- The parts of the archive that begins at a byte and ends with the bytes, in the order in which they were written. -/
  parts? (bytes : ByteArray) (start : Nat) : Except ZipFault (List Part)

namespace Zip

variable [Zip]

instance : Output Writer := ⟨fun bytes => (write bytes).failingAs .io, flush.failingAs .io⟩

/-- The part of an archive with a name. -/
def part? (bytes : ByteArray) (start : Nat) (name : String) : Except ZipFault Part := do
  match (← parts? bytes start).find? fun p => p.name = name with
  | some part => .ok part
  | none => .error .partNotFound

end Zip

end SheetExport
