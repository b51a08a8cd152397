import SheetExport.Sheet.Gzip
import SheetExport.Xml.Writer

/-!
# Rows that have left memory

A `Spill` is a scratch file to which serialized rows are appended, compressed or not. It is finished when its content is
copied for the first time; after that it can be copied again but nothing can be appended.
-/

namespace SheetExport

variable [Gzip]

/-- A scratch file that is being written. -/
inductive SpillSink where
  | plain (file : ScratchFile)
  | gzip (encoder : Gzip.Encoder)

namespace SpillSink

def onto (compressed : Bool) (file : ScratchFile) : SpillSink :=
  if compressed then gzip (Gzip.onto file) else plain file

/-- A call that either kind of file knows. -/
def either (plainly : ActionOf IoFault ScratchFile Unit) (encoding : ActionOf IoFault Gzip.Encoder Unit) :
    Action SpillSink Unit :=
  (ActionOf.of fun
    | plain file =>
        let (outcome, file) := plainly.on file
        (outcome, plain file)
    | gzip encoder =>
        let (outcome, encoder) := encoding.on encoder
        (outcome, gzip encoder)).failingAs .io

instance : Output SpillSink where
  write bytes := either (ScratchFile.write bytes) (Gzip.write bytes)
  flush := either ScratchFile.flush Gzip.flush

/-- Ends the writing and lets go of the file, also if the codec fails. -/
def finish : SpillSink → Except IoFault Unit × ScratchFile
  | plain file => ScratchFile.close.on file
  | gzip encoder =>
      let (ended, file) := Gzip.finish encoder
      let (closed, file) := ScratchFile.close.on file
      (ended.bind fun _ => closed, file)

end SpillSink

structure Spill where
  /-- What rows are written with, until the spill is finished. -/
  writer : Option (Xml.Writer SpillSink)
  /-- The file once it has been written. -/
  file : ScratchFile
  compressed : Bool
  /-- The rows appended so far. -/
  rows : Nat

namespace Spill

def create (compressed : Bool) (disk : Disk := .sound) : Spill where
  writer := some (.onto (.onto compressed (.empty disk)))
  file := .empty disk
  compressed
  rows := 0

def finished (s : Spill) : Bool := s.writer.isNone

/-- An action on the writer of a spill that is not finished. -/
def onWriter {α : Type} (a : Action (Xml.Writer SpillSink) α) : Action Spill α := .of fun s =>
  match s.writer with
  | none => (.error (.write "spill file already finished"), s)
  | some writer =>
      let (outcome, writer) := a.on writer
      (outcome, { s with writer := some writer })

def demandUnfinished : Action Spill Unit := onWriter (pure ())

/-- Appends a row, given by its tokens. -/
def append (tokens : List Xml.Token) : Action Spill Unit := do
  onWriter (Xml.Writer.putAll tokens)
  modify fun s => { s with rows := s.rows + 1 }

def flush : Action Spill Unit := do
  unless (← get).finished do onWriter Xml.Writer.flush

/-- Nothing can be appended any more, whatever this comes to. -/
def finish : Action Spill Unit := .of fun s =>
  match s.writer with
  | none => (.ok (), s)
  | some writer =>
      let (flushed, writer) := Xml.Writer.flush.on writer
      let (ended, file) := writer.target.finish
      (flushed.bind fun _ => ended.mapError .io, { s with writer := none, file })

/-- What can be read of the rows in the file, and the fault that ends the reading early. -/
def read : Action Spill (ByteArray × Option IoFault) := .of fun s =>
  let ((bytes, fault), file) := s.file.read
  let (rows, illegible) := if s.compressed then Gzip.decode bytes else (bytes, none)
  (.ok (rows, fault.or illegible), { s with file })

/-- Finishes the spill and copies its content to an output; yields the number of bytes. What can be read is copied
    before a fault is told. -/
def copyTo {ω : Type} [Output ω] : Action (Spill × ω) Nat := do
  finish.first
  let (bytes, fault) ← read.first
  (Output.write bytes).second
  match fault with
  | some fault => throw (.io fault)
  | none => return bytes.size

end Spill

end SheetExport
