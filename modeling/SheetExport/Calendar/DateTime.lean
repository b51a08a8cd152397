import SheetExport.Calendar.Date

/-!
# Times of a day

A `DateTime` is a date with a second of the day and a nanosecond. A leap second is written as the
second before it with a nanosecond of `10 ^ 9` or more, so that it comes after that second and before
the next one.
-/

namespace SheetExport

structure DateTime where
  date : Date
  /-- The second of the day, leap seconds left out. -/
  second : Nat
  nano : Nat
  second_lt : second < 86400
  nano_lt : nano < 2 * 10 ^ 9
  deriving DecidableEq, Repr

namespace DateTime

theorem zero_nano_lt : 0 < 2 * 10 ^ 9 := by decide

/-- A date-time from its fields; only second 59 may hold a leap second. -/
def ofFields? (date : Date) (hour minute second nano : Nat) : Option DateTime :=
  if h : hour < 24 ∧ minute < 60 ∧ second < 60 ∧ nano < 2 * 10 ^ 9 then
    if 10 ^ 9 ≤ nano ∧ second ≠ 59 then none
    else some ⟨date, hour * 3600 + minute * 60 + second, nano, by omega, h.2.2.2⟩
  else none

/-- A number that orders date-times. -/
def rank (t : DateTime) : Int :=
  (t.date.ordinal * 86400 + t.second) * (2 * 10 ^ 9) + t.nano

/-- Earlier times come first. -/
def order (a b : DateTime) : Ordering := compare a.rank b.rank

/-- The milliseconds since midnight; a leap second counts as a second of its own. -/
def milliseconds (t : DateTime) : Nat := t.second * 1000 + t.nano / 10 ^ 6

/-- A time of day as hours, minutes, seconds and as many digits as it needs out of 0, 3, 6 and 9. -/
def timeText (t : DateTime) : String :=
  let leap := t.nano / 10 ^ 9
  let nano := t.nano % 10 ^ 9
  Text.padded 2 (t.second / 3600) ++ ":" ++ Text.padded 2 (t.second / 60 % 60) ++ ":" ++
    Text.padded 2 (t.second % 60 + leap) ++
    if nano = 0 then ""
    else if nano % 10 ^ 6 = 0 then "." ++ Text.padded 3 (nano / 10 ^ 6)
    else if nano % 10 ^ 3 = 0 then "." ++ Text.padded 6 (nano / 10 ^ 3)
    else "." ++ Text.padded 9 nano

/-- Date and time with a blank between them. -/
def toText (t : DateTime) : String := t.date.toText ++ " " ++ t.timeText

/-- The time a number of seconds later, for less than a day in either direction. -/
def shift? (t : DateTime) (seconds : Int) : Option DateTime :=
  let moved := (t.second : Int) + seconds
  let date? := if moved < 0 then t.date.previous?
    else if 86400 ≤ moved then t.date.next? else some t.date
  date?.map fun date => ⟨date, (moved % 86400).toNat, t.nano, by omega, t.nano_lt⟩

end DateTime

end SheetExport
