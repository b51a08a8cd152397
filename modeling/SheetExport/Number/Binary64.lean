import SheetExport.Number.Natural

/-!
# Binary floating-point numbers of 64 bits

A `Binary64` is its bit pattern: a sign, eleven bits of exponent and 52 bits of fraction. Everything
that an export does with such a number is defined on the pattern, in exact arithmetic: `order` is the
order of the numbers (no number is comparable with a NaN, the two zeros are equal), `ofRat` rounds an
exact value to the nearest pattern, ties to the even one.
-/

namespace SheetExport

/-- A floating-point number of 64 bits. -/
structure Binary64 where
  bits : UInt64
  deriving DecidableEq, Repr

namespace Binary64

/-- The sign bit; set for numbers below zero and for negative zero. -/
def isNegative (x : Binary64) : Bool := 2 ^ 63 ≤ x.bits.toNat

def magnitude (x : Binary64) : Nat := x.bits.toNat % 2 ^ 63

/-- The magnitude of both infinities; every larger one is a NaN. -/
def infinity : Nat := 0x7FF * 2 ^ 52

def isNaN (x : Binary64) : Bool := infinity < x.magnitude

/-- Neither infinite nor a NaN. -/
def isFinite (x : Binary64) : Bool := x.magnitude < infinity

/-- Whole `m` and `e` such that a finite number is `m * 2 ^ e`, sign apart. -/
def significand (x : Binary64) : Nat × Int :=
  let exponent : Nat := x.magnitude / 2 ^ 52
  let fraction : Nat := x.magnitude % 2 ^ 52
  if exponent = 0 then (fraction, -1074)
  else (2 ^ 52 + fraction, (exponent : Int) - 1075)

def toRat (x : Binary64) : Rat :=
  let (m, e) := x.significand
  let value : Rat := if 0 ≤ e then (m * 2 ^ e.toNat : Nat) else (m : Rat) / (2 ^ (-e).toNat : Nat)
  if x.isNegative then -value else value

def ofMagnitude (negative : Bool) (magnitude : Nat) : Binary64 :=
  ⟨UInt64.ofNat ((if negative then 2 ^ 63 else 0) + magnitude)⟩

/-- The whole number nearest to `num / den`; a half goes to the even neighbour. -/
def roundHalfEven (num den : Nat) : Nat :=
  let q := num / den
  let r := num % den
  if 2 * r < den then q
  else if den < 2 * r then q + 1
  else if q % 2 = 0 then q else q + 1

/-- The exponent `k` with `2 ^ k ≤ num / den < 2 ^ (k + 1)`, for a positive quotient. -/
def floorLog2 (num den : Nat) : Int :=
  let k : Int := (num.log2 : Int) - den.log2
  let reaches : Bool := if 0 ≤ k then den * 2 ^ k.toNat ≤ num else den ≤ num * 2 ^ (-k).toNat
  if reaches then k else k - 1

/-- The magnitude nearest to the quotient `num / den`. Patterns of consecutive magnitudes denote
    consecutive numbers, so a significand that rounds up to `2 ^ 53` carries into the exponent. -/
def nearestMagnitude (num den : Nat) : Nat :=
  if num = 0 then 0
  else
    let e := max (floorLog2 num den - 52) (-1074)
    let m := if 0 ≤ e then roundHalfEven num (den * 2 ^ e.toNat)
      else roundHalfEven (num * 2 ^ (-e).toNat) den
    min ((e + 1074).toNat * 2 ^ 52 + m) infinity

def ofRat (q : Rat) : Binary64 :=
  ofMagnitude (q.num < 0) (nearestMagnitude q.num.natAbs q.den)

def ofInt (n : Int) : Binary64 :=
  ofMagnitude (n < 0) (nearestMagnitude n.natAbs 1)

/-- The correctly rounded sum of two finite numbers. -/
def add (x y : Binary64) : Binary64 := ofRat (x.toRat + y.toRat)

/-- The correctly rounded quotient of two finite numbers. -/
def div (x y : Binary64) : Binary64 := ofRat (x.toRat / y.toRat)

/-- A whole number that orders patterns as the numbers they denote; both zeros have rank 0. -/
def rank (x : Binary64) : Int :=
  if x.isNegative then -(x.magnitude : Int) else x.magnitude

/-- The order of two numbers; a NaN has none. -/
def order (x y : Binary64) : Option Ordering :=
  if x.isNaN || y.isNaN then none else some (compare x.rank y.rank)

/-- The whole number that a finite number is, if it is one. -/
def toInt? (x : Binary64) : Option Int :=
  if x.isFinite then
    let (m, e) := x.significand
    let whole : Option Nat :=
      if 0 ≤ e then some (m * 2 ^ e.toNat)
      else if m % 2 ^ (-e).toNat = 0 then some (m / 2 ^ (-e).toNat) else none
    whole.map fun n => if x.isNegative then -(n : Int) else n
  else none

/-- A number of 32 bits, widened without loss. -/
def ofBits32 (bits : UInt32) : Binary64 :=
  let n := bits.toNat
  let negative : Bool := 2 ^ 31 ≤ n
  let exponent : Nat := n / 2 ^ 23 % 256
  let fraction : Nat := n % 2 ^ 23
  if exponent = 255 then
    ofMagnitude negative (if fraction = 0 then infinity else infinity + 2 ^ 51)
  else if exponent = 0 then ofMagnitude negative (nearestMagnitude fraction (2 ^ 149))
  else ofMagnitude negative ((exponent + 896) * 2 ^ 52 + fraction * 2 ^ 29)

end Binary64

end SheetExport
