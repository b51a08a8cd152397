import SheetExport.Pattern.CharSet

/-!
# Regular expressions and where they match

A regular expression is evaluated on sets of positions of a text: `Regex.reach` says at which positions
a match can end, given the positions at which it may begin. A set of positions is a number whose bits
are its members, so one step for all positions is a shift. Only whether there is a match matters, hence
greedy and reluctant repetition are the same.
-/

namespace SheetExport

inductive Anchor where
  | textStart
  | textEnd
  | lineStart
  | lineEnd
  /-- Lines end with a carriage return, a line feed or both. -/
  | crlfLineStart
  | crlfLineEnd
  | wordBoundary
  | notWordBoundary
  | wordStart
  | wordEnd
  | wordStartHalf
  | wordEndHalf
  deriving DecidableEq, Repr

/-- The condition holds between two neighbours, either of which may be missing. -/
def Anchor.holds (isWord : Char → Bool) (before after : Option Char) : Anchor → Bool :=
  let word (c : Option Char) := (c.map isWord).getD false
  fun
  | textStart => before.isNone
  | textEnd => after.isNone
  | lineStart => before.isNone || before == some '\n'
  | lineEnd => after.isNone || after == some '\n'
  | crlfLineStart => before.isNone || before == some '\n' ||
      (before == some '\r' && after != some '\n')
  | crlfLineEnd => after.isNone || after == some '\r' ||
      (after == some '\n' && before != some '\r')
  | wordBoundary => word before != word after
  | notWordBoundary => word before == word after
  | wordStart => !word before && word after
  | wordEnd => word before && !word after
  | wordStartHalf => !word before
  | wordEndHalf => !word after

/-- A regular expression over sets of characters `σ` and conditions on gaps `γ`. -/
inductive Regex (σ γ : Type) where
  | empty
  | one (set : σ)
  | gap (condition : γ)
  | seq (r s : Regex σ γ)
  | alt (r s : Regex σ γ)
  /-- From `least` to `most` times in a row, without an upper end if there is no `most`. -/
  | times (r : Regex σ γ) (least : Nat) (most : Option Nat)
  deriving Repr

namespace Regex

def map {σ τ γ δ : Type} (f : σ → τ) (g : γ → δ) : Regex σ γ → Regex τ δ
  | empty => empty
  | one set => one (f set)
  | gap condition => gap (g condition)
  | seq r s => seq (r.map f g) (s.map f g)
  | alt r s => alt (r.map f g) (s.map f g)
  | times r least most => times (r.map f g) least most

/-- The number with these bits, the lowest first. -/
def ofBits (bits : List Bool) : Nat := bits.foldr (fun b n => 2 * n + b.toNat) 0

/-- `step` applied `n` times, or until it changes nothing any more. -/
def advance (step : Nat → Nat) : Nat → Nat → Nat
  | 0, set => set
  | n + 1, set =>
      let next := step set
      if next = set then set else advance step n next

/-- What up to `n` steps reach, the start included. -/
def spread (step : Nat → Nat) : Nat → Nat → Nat :=
  advance fun set => set ||| step set

/-- The positions where a match that begins in `set` can end, in a text of `n` characters. Every set is
    given by the positions of its characters, every condition by the positions where it holds. -/
def reach (n : Nat) : Regex Nat Nat → Nat → Nat
  | empty, set => set
  | one places, set => 2 * (set &&& places)
  | gap places, set => set &&& places
  | seq r s, set => reach n s (reach n r set)
  | alt r s, set => reach n r set ||| reach n s set
  | times r least most, set =>
      spread (reach n r) ((most.map (· - least)).getD n) (advance (reach n r) least set)

end Regex

/-- The gaps of a text, each with the character before it and the one after it. -/
def gaps : Option Char → List Char → List (Option Char × Option Char)
  | before, [] => [(before, none)]
  | before, c :: rest => (before, some c) :: gaps (some c) rest

/-- A condition on gaps, with the characters that make up words. -/
structure Gap where
  anchor : Anchor
  /-- Only characters of ASCII belong to words. -/
  asciiWords : Bool
  deriving DecidableEq, Repr

def Gap.holds (g : Gap) (neighbours : Option Char × Option Char) : Bool :=
  let isWord := if g.asciiWords then fun c => isWordChar c && CharSet.ascii.contains c else isWordChar
  g.anchor.holds isWord neighbours.1 neighbours.2

abbrev Pattern := Regex CharSet Gap

namespace Pattern

/-- The pattern on a text: sets and conditions become the positions where they hold. -/
def on (p : Pattern) (text : List Char) : Regex Nat Nat :=
  p.map (fun set => Regex.ofBits (text.map set.contains))
    (fun g => Regex.ofBits ((gaps none text).map g.holds))

def matchesIn (p : Pattern) (text : String) : Bool :=
  let cs := text.toList
  (p.on cs).reach cs.length (2 ^ (cs.length + 1) - 1) != 0

end Pattern

end SheetExport
