import SheetExport.Calendar.DateTime

/-!
# Points in time as RFC 3339 texts

Points in time are date-times in UTC. `Timestamp.write` writes one with the offset `+00:00`;
`Timestamp.read?` accepts any offset, a `T`, a `t` or a blank before the time, and a fraction of the
second of any length, of which nine digits count.
-/

namespace SheetExport

/-- A point in time, in UTC. -/
abbrev Timestamp := DateTime

namespace Timestamp

def write (t : Timestamp) : String := t.date.toText ++ "T" ++ t.timeText ++ "+00:00"

/-- A number of exactly `width` digits at the start of a text, and what follows it. -/
def digits? (width : Nat) (cs : List Char) : Option (Nat × List Char) :=
  if (cs.take width).length = width ∧ (cs.take width).all Text.isDigit then
    some (Text.ofDigits (cs.take width), cs.drop width)
  else none

def one? (allowed : List Char) : List Char → Option (List Char)
  | c :: rest => if c ∈ allowed then some rest else none
  | [] => none

/-- The nanoseconds that a fraction of a second denotes, and what follows it. -/
def fraction? : List Char → Option (Nat × List Char)
  | '.' :: rest =>
      let ds := rest.takeWhile Text.isDigit
      if ds.isEmpty then none
      else some (Text.ofDigits ((ds ++ List.replicate 9 '0').take 9), rest.dropWhile Text.isDigit)
  | cs => some (0, cs)

/-- The seconds by which a local time is ahead of UTC, and what follows. -/
def offset? : List Char → Option (Int × List Char)
  | 'Z' :: rest | 'z' :: rest => some (0, rest)
  | c :: rest => do
      let sign : Int ← if c = '+' then some 1 else if c = '-' ∨ c = '\u2212' then some (-1) else none
      let (hours, rest) ← digits? 2 rest
      let rest ← one? [':'] rest
      let (minutes, rest) ← digits? 2 rest
      if hours < 24 ∧ minutes < 60 then some (sign * (hours * 3600 + minutes * 60 : Nat), rest)
      else none
  | [] => none

/-- The point in time that a text denotes, if it is an RFC 3339 timestamp. -/
def read? (s : String) : Option Timestamp := do
  let (year, cs) ← digits? 4 s.toList
  let cs ← one? ['-'] cs
  let (month, cs) ← digits? 2 cs
  let cs ← one? ['-'] cs
  let (day, cs) ← digits? 2 cs
  let cs ← one? ['T', 't', ' '] cs
  let (hour, cs) ← digits? 2 cs
  let cs ← one? [':'] cs
  let (minute, cs) ← digits? 2 cs
  let cs ← one? [':'] cs
  let (second, cs) ← digits? 2 cs
  let (nano, cs) ← fraction? cs
  let (ahead, cs) ← offset? cs
  if ¬ cs.isEmpty then none
  let date ← Date.ofYmd? year month day
  let (second, nano) := if second = 60 then (59, nano + 10 ^ 9) else (second, nano)
  let wall ← DateTime.ofFields? date hour minute second nano
  wall.shift? (-ahead)

end Timestamp

end SheetExport
