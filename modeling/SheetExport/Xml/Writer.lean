import SheetExport.Sink
import SheetExport.Xml.Token

/-!
# Buffered writing

A `Writer` gathers bytes and passes them on to an output when more than 4096 have come together. A
pass that fails keeps the bytes, so that the next pass offers them again: output and buffer together
always hold everything written so far.
-/

namespace SheetExport.Xml

/-- The number of bytes that a writer may hold back. -/
def bufferLimit : Nat := 4096

/-- An output with bytes that have not reached it yet. -/
structure Writer (ω : Type) where
  target : ω
  buffer : ByteArray

namespace Writer

variable {ω : Type}

/-- A writer that has not written anything. -/
def onto (target : ω) : Writer ω := ⟨target, .empty⟩

/-- Everything written to a sink so far. -/
def written (w : Writer Sink) : ByteArray := w.target.content ++ w.buffer

def onTarget {α : Type} (a : Action ω α) : Action (Writer ω) α :=
  a.within Writer.target fun target w => { w with target }

variable [Output ω]

def passOn : Action (Writer ω) Unit := do
  let w ← get
  onTarget (Output.write w.buffer)
  modify fun w => { w with buffer := .empty }

/-- Adds bytes and passes the buffer on if it has grown too large. -/
def pushBytes (bytes : ByteArray) : Action (Writer ω) Unit := do
  modify fun w => { w with buffer := w.buffer ++ bytes }
  if bufferLimit < (← get).buffer.size then passOn

def push (chunk : String) : Action (Writer ω) Unit := pushBytes chunk.toUTF8

def put (t : Token) : Action (Writer ω) Unit := t.chunks.forM push

/-- Writes tokens up to the first failure. -/
def putAll (tokens : List Token) : Action (Writer ω) Unit := tokens.forM put

def flush : Action (Writer ω) Unit := do
  unless (← get).buffer.isEmpty do passOn
  onTarget Output.flush

/-- Flushes and hands the output back. -/
def finish : Action (Writer ω) ω := do
  flush
  return (← get).target

def writeAll (tokens : List Token) : Action ω Unit := .of fun target =>
  let (outcome, w) := ((do putAll tokens; flush) : Action (Writer ω) Unit).on (onto target)
  (outcome, w.target)

end Writer

end SheetExport.Xml
