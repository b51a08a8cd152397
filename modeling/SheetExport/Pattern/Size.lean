import SheetExport.Pattern.Regex

/-!
# How large patterns may grow

Counted repetition multiplies what it repeats, so a short pattern can stand for a very large automaton.
`Pattern.size` is about the number of bytes of that automaton, of which each state takes
`stateBytes`; patterns above `maxPatternBytes` are refused.
-/

namespace SheetExport

/-- The bytes of a state. -/
def stateBytes : Nat := 32

/-- The greatest number of bytes of an automaton. -/
def maxPatternBytes : Nat := 10485760

/-- About the bytes that a set takes. Sets of letters consist of hundreds of ranges, each of which is
    matched byte by byte. -/
def CharSet.size : CharSet → Nat
  | nothing => stateBytes
  | range first last =>
      if first = last then stateBytes * first.utf8Size
      else if last.toNat < 0x80 then 2 * stateBytes + 8
      else 6 * stateBytes
  | categories cs => if cs = [.Nd] then 100 * stateBytes else 1000 * stateBytes
  | blank => 20 * stateBytes
  | word => 1500 * stateBytes
  | union a b | inter a b => a.size + b.size
  | compl a | folded a => a.size + 4 * stateBytes

namespace Pattern

/-- Nothing but the empty text can match, so repetition adds nothing. -/
def isWidthless : Pattern → Bool
  | .empty | .gap _ => true
  | .one _ => false
  | .seq r s | .alt r s => isWidthless r && isWidthless s
  | .times r _ most => isWidthless r || most == some 0

/-- About the bytes that a pattern takes. Repetition without an upper end goes back to its last copy. -/
def size : Pattern → Nat
  | .empty | .gap _ => stateBytes
  | .one set => set.size
  | .seq r s => size r + size s
  | .alt r s => size r + size s + 2 * stateBytes
  | .times r least most =>
      if isWidthless r || most == some 0 then size r
      else max least 1 * size r + match most with
        | some most => (most - max least 1) * (size r + stateBytes)
        | none => 2 * stateBytes

end Pattern

end SheetExport
