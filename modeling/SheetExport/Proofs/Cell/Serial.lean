import Mathlib.Data.Rat.Floor
import SheetExport.Cell.Serial
import SheetExport.Proofs.Calendar.Date
import SheetExport.Proofs.Number.Whole

/-! # The order of serial numbers

Before it is rounded, the serial number of a date-time counts milliseconds, and a leap second has up to a thousand more
of them than there are until the next second. So serial numbers keep the order of times except from within a leap
second into the second after it, and their whole parts count days except in a leap second at the end of a day.
-/

namespace SheetExport

namespace DateTime

variable {t u : DateTime}

/-- The number of a second, leap seconds left out. -/
def clockSecond (t : DateTime) : Int := t.date.ordinal * 86400 + t.second

/-- The first time is in a leap second, and further into it than the second time is into the second after it. -/
def Overtakes (t u : DateTime) : Prop :=
  u.clockSecond = t.clockSecond + 1 ∧ 1000 + u.nano / 10 ^ 6 < t.nano / 10 ^ 6

/-- The time is in a leap second after the last second of a day. -/
def EndsDay (t : DateTime) : Prop := t.second = 86399 ∧ 10 ^ 9 ≤ t.nano

instance (t u : DateTime) : Decidable (t.Overtakes u) := inferInstanceAs (Decidable (_ ∧ _))

instance (t : DateTime) : Decidable t.EndsDay := inferInstanceAs (Decidable (_ ∧ _))

/-! ## Serial numbers as milliseconds -/

/-- The milliseconds that the serial number counts. -/
def serialMilliseconds (t : DateTime) : Int := t.date.serialDays * millisecondsPerDay + t.milliseconds

theorem serialMilliseconds_eq (t : DateTime) :
    t.serialMilliseconds = (t.clockSecond - serialEpoch * 86400) * 1000 + t.nano / 10 ^ 6 := by
  rw [serialMilliseconds, milliseconds, Date.serialDays, clockSecond, millisecondsPerDay]
  omega

theorem exactSerial_eq (t : DateTime) : t.exactSerial = (t.serialMilliseconds : Rat) / (millisecondsPerDay : Rat) := by
  have day : (millisecondsPerDay : Rat) ≠ 0 := by decide +kernel
  rw [exactSerial, serialMilliseconds, Int.cast_add, Int.cast_mul, Int.cast_natCast, Int.cast_natCast, add_div,
    mul_div_cancel_right₀ _ day]

theorem exactSerial_le_iff : t.exactSerial ≤ u.exactSerial ↔ t.serialMilliseconds ≤ u.serialMilliseconds := by
  have day : (0 : Rat) < millisecondsPerDay := by decide +kernel
  rw [exactSerial_eq, exactSerial_eq, div_le_div_iff_of_pos_right day, Int.cast_le]

theorem floor_exactSerial (t : DateTime) : ⌊t.exactSerial⌋ = t.serialMilliseconds / millisecondsPerDay := by
  rw [exactSerial_eq]
  exact Rat.floor_intCast_div_natCast _ _

/-! ## Order and whole parts -/

theorem clockSecond_le (le : t.order u ≠ .gt) :
    t.clockSecond < u.clockSecond ∨ (t.clockSecond = u.clockSecond ∧ t.nano ≤ u.nano) := by
  have first := t.nano_lt
  have second := u.nano_lt
  rw [order, rank, rank, Ne, Int.compare_eq_gt] at le
  rw [clockSecond, clockSecond]
  omega

theorem exactSerial_le_iff_of_order (le : t.order u ≠ .gt) : t.exactSerial ≤ u.exactSerial ↔ ¬ t.Overtakes u := by
  have seconds := clockSecond_le le
  have first := t.nano_lt
  rw [exactSerial_le_iff, serialMilliseconds_eq, serialMilliseconds_eq, Overtakes]
  omega

theorem floor_exactSerial_iff (t : DateTime) : ⌊t.exactSerial⌋ = t.date.serialDays ↔ ¬ t.EndsDay := by
  have second := t.second_lt
  have nano := t.nano_lt
  rw [floor_exactSerial, serialMilliseconds, milliseconds, millisecondsPerDay, EndsDay]
  omega

end DateTime

/-! ## What is rounded -/

theorem Date.serialDays_lt (d : Date) : d.serialDays.natAbs < 2 ^ 53 := by
  have years := d.year_mem
  have days := d.dayOfYear_bounds
  have length : daysInYear d.year ≤ 366 := by rw [daysInYear]; split <;> omega
  rw [serialDays, ordinal_eq, daysBeforeYear, serialEpoch]
  omega

/-- The serial number of a date is a whole number that needs no rounding. -/
theorem Date.toRat_serial (d : Date) : d.serial.toRat = d.serialDays := Binary64.toRat_ofInt d.serialDays_lt

/-- The numbers from which the serial number of a date-time is computed are exact. -/
theorem DateTime.toRat_parts (t : DateTime) :
    t.date.serial.toRat + (Binary64.ofInt t.milliseconds).toRat / (Binary64.ofInt millisecondsPerDay).toRat =
      t.exactSerial := by
  have second := t.second_lt
  have nano := t.nano_lt
  have time : ((t.milliseconds : Int)).natAbs < 2 ^ 53 := by rw [milliseconds]; omega
  have day : ((millisecondsPerDay : Int)).natAbs < 2 ^ 53 := by decide
  rw [Date.toRat_serial, Binary64.toRat_ofInt time, Binary64.toRat_ofInt day, exactSerial, Int.cast_natCast,
    Int.cast_natCast]

/-! ## Days -/

theorem Date.IsNext.serialDays {d e : Date} (next : d.IsNext e) : e.serialDays = d.serialDays + 1 := by
  rw [Date.serialDays, Date.serialDays, next.ordinal]
  omega

/-- Times are in the order of their fields. The serial numbers that they have before rounding are in the same order
    exactly if the first time does not overtake the second from within a leap second, and the whole part of such a
    number is that of the date exactly if the time is not in a leap second at the end of the day. The number of a date
    is not rounded and grows by one to the next day. -/
theorem serials_in_order_iff (t u : DateTime) :
    (t.order u = ((compare t.date.year u.date.year).then ((compare t.date.month u.date.month).then
      (compare t.date.day u.date.day))).then ((compare t.second u.second).then (compare t.nano u.nano))) ∧
    (t.date.serial.toRat + (Binary64.ofInt t.milliseconds).toRat / (Binary64.ofInt millisecondsPerDay).toRat =
      t.exactSerial) ∧
    (t.order u ≠ .gt → (t.exactSerial ≤ u.exactSerial ↔ ¬ t.Overtakes u)) ∧
    (⌊t.exactSerial⌋ = t.date.serialDays ↔ ¬ t.EndsDay) ∧
    t.date.serial.toRat = t.date.serialDays ∧
    (t.date.IsNext u.date → u.date.serialDays = t.date.serialDays + 1) := by
  refine ⟨?_, t.toRat_parts, DateTime.exactSerial_le_iff_of_order, t.floor_exactSerial_iff, t.date.toRat_serial,
    Date.IsNext.serialDays⟩
  rw [DateTime.order_eq, Date.order_eq]

/-- A time of a date, by its second and its nanosecond. -/
def Date.atTime (d : Date) (second : Fin 86400) (nano : Fin (2 * 10 ^ 9)) : DateTime :=
  ⟨d, second, nano, second.isLt, nano.isLt⟩

def endOfJune : Date := ⟨2015, 6, 30, by decide, by decide, by decide⟩

def startOfJuly : Date := ⟨2015, 7, 1, by decide, by decide, by decide⟩

/-- Half a second into the leap second at the end of June 2015. -/
def leapSecond : DateTime := endOfJune.atTime 86399 1500000000

/-- The last nanosecond before a leap second and a time within it, each with the next day. -/
theorem serials_in_order_iff_july :
    ((endOfJune.atTime 86399 999999999).order (startOfJuly.atTime 0 0) ≠ .gt ∧
      (endOfJune.atTime 86399 999999999).exactSerial ≤ (startOfJuly.atTime 0 0).exactSerial) ∧
    (leapSecond.order (startOfJuly.atTime 0 0) ≠ .gt ∧
      ¬ leapSecond.exactSerial ≤ (startOfJuly.atTime 0 0).exactSerial) ∧
    endOfJune.IsNext startOfJuly ∧ startOfJuly.serialDays = endOfJune.serialDays + 1 := by
  have ordered : (endOfJune.atTime 86399 999999999).order (startOfJuly.atTime 0 0) ≠ .gt := by decide
  have late : leapSecond.order (startOfJuly.atTime 0 0) ≠ .gt := by decide
  have next : endOfJune.IsNext startOfJuly := Date.isNext_of_next? rfl
  obtain ⟨-, -, keeps, -⟩ := serials_in_order_iff (endOfJune.atTime 86399 999999999) (startOfJuly.atTime 0 0)
  obtain ⟨-, -, breaks, -, -, grows⟩ := serials_in_order_iff leapSecond (startOfJuly.atTime 0 0)
  exact ⟨⟨ordered, (keeps ordered).mpr (by decide)⟩, ⟨late, fun le => (breaks late).mp le (by decide)⟩, next, grows next⟩

/-- A time in a leap second has a greater serial number than the next day, and the whole part of the next day. -/
theorem leap_second_numbered_as_next_day :
    leapSecond.order (startOfJuly.atTime 0 0) = .lt ∧
      ¬ leapSecond.exactSerial ≤ (startOfJuly.atTime 0 0).exactSerial ∧
      ⌊leapSecond.exactSerial⌋ = endOfJune.serialDays + 1 := by
  rw [DateTime.exactSerial_le_iff, DateTime.floor_exactSerial]
  decide

end SheetExport
