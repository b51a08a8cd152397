import SheetExport.Sheet.ScratchFile

/-!
# Compression of files

What is needed of a codec for gzip: an encoder that writes to a file, call by call, and a decoder for what is in a
file in the end.
-/

namespace SheetExport

class Gzip where
  /-- A file that is written through the codec. -/
  Encoder : Type
  onto : ScratchFile → Encoder
  write : ByteArray → ActionOf IoFault Encoder Unit
  flush : ActionOf IoFault Encoder Unit
  /-- Writes what is still to come and hands the file back. -/
  finish : Encoder → Except IoFault Unit × ScratchFile
  /-- What bytes stand for, as far as they can be read, and the fault that ends the reading early. -/
  decode : ByteArray → ByteArray × Option IoFault

end SheetExport
