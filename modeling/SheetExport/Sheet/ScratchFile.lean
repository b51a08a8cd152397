import SheetExport.Action

/-!
# Scratch files

A `ScratchFile` is written to and read back on a disk that may fail. A `Disk` tells beforehand what becomes of each
call on a file, so that what holds for every disk holds whatever fails and when.
-/

namespace SheetExport

/-- A call on a file that fails: how many bytes it gets through, and what it reports. -/
structure Mishap where
  reached : Nat
  fault : IoFault

/-- What goes wrong with the calls on a file, one after another. -/
structure Disk where
  mishap? : Nat → Option Mishap

namespace Disk

/-- No call fails. -/
def sound : Disk := ⟨fun _ => none⟩

/-- The disk once a call has been made. -/
def later (d : Disk) : Disk := ⟨fun n => d.mishap? (n + 1)⟩

end Disk

structure ScratchFile where
  content : ByteArray
  disk : Disk

namespace ScratchFile

def empty (disk : Disk) : ScratchFile := ⟨.empty, disk⟩

/-- A call on a file, by what it makes of the content: in full, or if it gets through some bytes only. -/
def call (whole : ByteArray → ByteArray) (part : Nat → ByteArray → ByteArray) : ActionOf IoFault ScratchFile Unit :=
  .of fun f =>
    match f.disk.mishap? 0 with
    | none => (.ok (), ⟨whole f.content, f.disk.later⟩)
    | some m => (.error m.fault, ⟨part m.reached f.content, f.disk.later⟩)

def write (bytes : ByteArray) : ActionOf IoFault ScratchFile Unit :=
  call (· ++ bytes) fun n content => content ++ bytes.extract 0 n

def flush : ActionOf IoFault ScratchFile Unit := call id fun _ content => content

/-- Lets go of a file that was written. If that fails, bytes that were still held back are lost. -/
def close : ActionOf IoFault ScratchFile Unit := call id fun n content => content.extract 0 n

/-- What is read of a file, and the fault that ends the reading early. -/
def read : StateM ScratchFile (ByteArray × Option IoFault) := fun f =>
  match f.disk.mishap? 0 with
  | none => ((f.content, none), ⟨f.content, f.disk.later⟩)
  | some m => ((f.content.extract 0 m.reached, some m.fault), ⟨f.content, f.disk.later⟩)

end ScratchFile

end SheetExport
