import SheetExport.Calendar.Timestamp

/-!
# Reading the clocks

Two clocks are read at once: one that only ever goes on, by which it is decided what has grown too old,
and one that tells the time.
-/

namespace SheetExport

structure Moment where
  /-- Nanoseconds on the clock that only goes on. -/
  elapsed : Nat
  time : Timestamp

namespace Moment

/-- The last moment that the clock which only goes on can tell; it counts seconds with 63 bits. -/
def lastElapsed : Nat := 2 ^ 63 * 10 ^ 9 - 1

/-- The clock can tell when so many nanoseconds will be over. -/
def Tells (now : Moment) (lifetime : Nat) : Prop := now.elapsed + lifetime ≤ lastElapsed

instance (now : Moment) (lifetime : Nat) : Decidable (now.Tells lifetime) :=
  inferInstanceAs (Decidable (_ ≤ _))

end Moment

end SheetExport
