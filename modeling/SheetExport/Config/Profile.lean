/-!
# Memory profiles

A `MemoryProfile` stands for how much memory an export may use. It fixes how many rows stay in memory
and how many are written between two flushes.
-/

namespace SheetExport

inductive MemoryProfile where
  | low
  | medium
  | high
  | custom (window flushBatch : Nat)
  deriving DecidableEq, Repr

namespace MemoryProfile

/-- The profile for a memory limit in megabytes. -/
def ofMegabytes (limit : Nat) : MemoryProfile :=
  if limit < 512 then low else if limit < 1024 then medium else high

/-- The rows in memory and the rows between two flushes. -/
def sizes : MemoryProfile → Nat × Nat
  | low => (50, 100)
  | medium => (100, 500)
  | high => (200, 1000)
  | custom window flushBatch => (window, flushBatch)

end MemoryProfile

end SheetExport
