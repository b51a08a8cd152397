import SheetExport.Action

/-!
# Outputs

An `Output` is whatever takes bytes. A `Sink` is the simplest one: it keeps the bytes, it may have a
limit, in which case a write that would pass it fails and leaves nothing behind, and its flush may be
refused.
-/

namespace SheetExport

/-- A state that takes bytes. -/
class Output (ω : Type) where
  /-- Takes all of the bytes, or fails. -/
  write : ByteArray → Action ω Unit
  flush : Action ω Unit

/-- Where bytes go. -/
structure Sink where
  content : ByteArray
  /-- The greatest number of bytes that fit, if there is one. -/
  limit : Option Nat
  refusesFlush : Bool

namespace Sink

def unlimited : Sink := ⟨.empty, none, false⟩

/-- The number of bytes taken so far. -/
def size (s : Sink) : Nat := s.content.size

/-- There is room for `n` more bytes. -/
def hasRoom (s : Sink) (n : Nat) : Bool :=
  match s.limit with
  | some limit => s.size + n ≤ limit
  | none => true

/-- Takes all of the bytes or none of them. -/
def write (bytes : ByteArray) : ActionOf IoFault Sink Unit := .of fun s =>
  if s.hasRoom bytes.size then (.ok (), { s with content := s.content ++ bytes })
  else (.error .outputFull, s)

/-- Succeeds unless flushes are refused. -/
def flush : ActionOf IoFault Sink Unit := .of fun s =>
  (if s.refusesFlush then .error .flushRefused else .ok (), s)

instance : Output Sink := ⟨fun bytes => (write bytes).failingAs .io, flush.failingAs .io⟩

end Sink

end SheetExport
