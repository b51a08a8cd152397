import SheetExport.Calendar.DateTime
import SheetExport.Number.Binary64

/-!
# Serial numbers of dates

A sheet stores a date as the number of days since 30 December 1899 and a time of day as a fraction of
a day. `exactSerial` is that number for a date-time before any rounding, `Date.serial` and
`DateTime.serial` are the floating-point numbers that are written.
-/

namespace SheetExport

/-- The ordinal of the day with serial number 0. -/
def serialEpoch : Int := 693594

def Date.serialDays (d : Date) : Int := d.ordinal - serialEpoch

def Date.serial (d : Date) : Binary64 := Binary64.ofInt d.serialDays

/-- The milliseconds of a day without leap seconds. -/
def millisecondsPerDay : Nat := 86400000

def DateTime.exactSerial (t : DateTime) : Rat :=
  t.date.serialDays + (t.milliseconds : Rat) / (millisecondsPerDay : Rat)

/-- The serial number of a date-time. The fraction of the day is rounded before it is added, and the
    sum is rounded again. -/
def DateTime.serial (t : DateTime) : Binary64 :=
  t.date.serial.add ((Binary64.ofInt t.milliseconds).div (Binary64.ofInt millisecondsPerDay))

end SheetExport
