/-!
# Counters over exports

How many exports have succeeded and failed, how long they took and how many rows they wrote. Counters
have 64 bits and start again from zero when they overflow.
-/

namespace SheetExport

structure Metrics where
  succeeded : UInt64
  failed : UInt64
  /-- The time that exports took, in milliseconds. -/
  duration : UInt64
  rows : UInt64
  deriving DecidableEq, Repr

namespace Metrics

def zero : Metrics := ⟨0, 0, 0, 0⟩

/-- Counts an export that took some milliseconds. -/
def recordDuration (m : Metrics) (milliseconds : UInt64) (success : Bool) : Metrics :=
  let m := { m with duration := m.duration + milliseconds }
  if success then { m with succeeded := m.succeeded + 1 } else { m with failed := m.failed + 1 }

def recordRows (m : Metrics) (rows : UInt64) : Metrics := { m with rows := m.rows + rows }

end Metrics

end SheetExport
