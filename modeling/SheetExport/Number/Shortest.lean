import SheetExport.Number.Binary64

/-!
# The shortest decimal of a floating-point number

Among the decimals that round back to a number, the shortest ones have the fewest digits; of these the
nearest to the number is chosen, and the upper one if two are equally near. `Binary64.toText` writes
that decimal with a decimal point where one is needed and never with an exponent.

The search is in whole numbers. A finite number is `m * 2 ^ e`; the reals that round to it reach half
way to its neighbours, with the ends themselves exactly if `m` is even. All three are brought to one
power of ten below which they have no digits (`Span`), and the grids of one, two, three … digits are
tried in turn.
-/

namespace SheetExport

/-- A positive number and the ends of the interval of reals that round to it, each counted in units of
    `10 ^ (-scale)`. -/
structure Span where
  low : Nat
  value : Nat
  high : Nat
  scale : Nat
  closed : Bool
  deriving Repr, DecidableEq

namespace Span

def holds (s : Span) (n : Nat) : Bool :=
  if s.closed then s.low ≤ n && n ≤ s.high else s.low < n && n < s.high

/-- The number of digits of a whole number; zero has one. -/
def digitCount (n : Nat) : Nat := (Nat.toDigits 10 n).length

/-- The better of the two multiples of `unit` around the value, if one rounds to the number. -/
def onGrid (s : Span) (unit : Nat) : Option Nat :=
  let below := s.value / unit * unit
  let above := below + unit
  match s.holds below, s.holds above with
  | true, true => some (if s.value - below < above - s.value then below else above)
  | true, false => some below
  | false, true => some above
  | false, false => none

/-- The first hit on the grids `unit`, `unit / 10`, … down to the units of the span, of which there
    are `grids`. On the last grid the value itself is a hit. -/
def search (s : Span) : Nat → Nat
  | 0 => s.value
  | grids + 1 => (s.onGrid (10 ^ grids)).getD (s.search grids)

def shortest (s : Span) : Nat := s.search (digitCount s.value)

end Span

/-- The digits of `n * 10 ^ (-scale)`, with a point if some are left after it. -/
def positional (n scale : Nat) : String :=
  let digits := Nat.toDigits 10 n
  let digits := List.replicate (scale + 1 - digits.length) '0' ++ digits
  let whole := digits.take (digits.length - scale)
  let rest := ((digits.drop (digits.length - scale)).reverse.dropWhile (· == '0')).reverse
  String.ofList (if rest.isEmpty then whole else whole ++ '.' :: rest)

namespace Binary64

/-- The span of a finite number that is not zero. The neighbour below a power of two is half as far as
    the one above, except at the smallest exponent. -/
def span (x : Binary64) : Span :=
  let (m, e) := x.significand
  let below := if m = 2 ^ 52 ∧ -1074 < e then 1 else 2
  let scaled (n : Nat) : Nat :=
    if 2 ≤ e then n * 2 ^ (e - 2).toNat else n * 5 ^ (2 - e).toNat
  { low := scaled (4 * m - below), value := scaled (4 * m), high := scaled (4 * m + 2),
    scale := (2 - e).toNat, closed := m % 2 = 0 }

/-- The number in words that read back as the number. -/
def toText (x : Binary64) : String :=
  if x.isNaN then "NaN"
  else (if x.isNegative then "-" else "") ++
    if ¬ x.isFinite then "inf"
    else if x.magnitude = 0 then "0"
    else let s := x.span
      positional s.shortest s.scale

end Binary64

end SheetExport
