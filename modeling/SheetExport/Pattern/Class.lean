import SheetExport.Pattern.Escape

/-!
# Bracketed classes in patterns

A class lists characters, ranges, escapes and further classes between brackets. Sets so listed can be
intersected (`&&`) or subtracted (`--`, `~~`), all with the same strength and from left to right.
-/

namespace SheetExport

structure ClassPiece where
  set : CharSet
  depth : Nat

abbrev SetOperation := CharSet → CharSet → CharSet

structure ClassFrame where
  negated : Bool
  /-- The first operand and the operation that waits for its second one. -/
  pending : Option (ClassPiece × SetOperation)
  /-- The items of the current operand, the last one first. -/
  items : List ClassPiece

namespace ClassFrame

def add (f : ClassFrame) (p : ClassPiece) : ClassFrame := { f with items := p :: f.items }

def operand (f : ClassFrame) : ClassPiece :=
  match f.items with
  | [p] => p
  | items =>
      { set := .unionAll (items.map ClassPiece.set)
        depth := if items.isEmpty then 0 else (items.map ClassPiece.depth).foldl max 0 + 1 }

/-- Everything read so far as one set. Operands are made indifferent to case before they are combined. -/
def combined (f : ClassFrame) (ignoresCase : Bool) : ClassPiece :=
  match f.pending with
  | none => f.operand
  | some (left, operation) =>
      { set := operation (left.set.foldedIf ignoresCase) (f.operand.set.foldedIf ignoresCase)
        depth := max left.depth f.operand.depth + 1 }

/-- The operation has been read; its second operand follows. -/
def await (f : ClassFrame) (ignoresCase : Bool) (operation : SetOperation) : ClassFrame :=
  { f with pending := some (f.combined ignoresCase, operation), items := [] }

def close (f : ClassFrame) (ignoresCase : Bool) : ClassPiece :=
  let whole := f.combined ignoresCase
  ⟨(whole.set.foldedIf ignoresCase).complIf f.negated, whole.depth + 1⟩

end ClassFrame

namespace Reader

def posixClass? (rest : List Char) : Option (Bool × CharSet × List Char) := do
  let (negated, rest) ← match rest with
    | '[' :: ':' :: '^' :: rest => some (true, rest)
    | '[' :: ':' :: rest => some (false, rest)
    | _ => none
  let name := rest.takeWhile (· != ':')
  match rest.drop name.length with
  | ':' :: ']' :: rest => return (negated, ← CharSet.posix? (String.ofList name), rest)
  | _ => none

/-- Hyphens at the beginning of a class stand for themselves. -/
def leadingHyphens : Nat → ClassFrame → Reader ClassFrame
  | 0, f => pure f
  | n + 1, f => do
      if (← peek) == '-' then
        passOn
        leadingHyphens n (f.add ⟨.single '-', 0⟩)
      else pure f

/-- The beginning of a class, whose opening bracket is next. A closing bracket that comes first stands
    for itself. -/
def openClass : Reader ClassFrame := do
  passOn
  let negated := (← peek) == '^'
  if negated then passOn
  let f ← leadingHyphens (← remaining) ⟨negated, none, []⟩
  if f.items.isEmpty && (← peek) == ']' then
    passOn
    let _ ← peek
    return f.add ⟨.single ']', 0⟩
  let _ ← peek
  return f

def classItem : Reader Escape := do
  let c ← peek
  if c == '\\' then escape
  else literal c

/-- A character that may be in a class. Where characters are bytes, only those of ASCII and those given
    by their code may. -/
def classChar (c : Char) (isByte : Bool) : Reader Char := do
  if (← get).options.unicode || c.toNat < 128 || isByte then return c
  throw .splitsCharacters

def rangeEnd : Escape → Reader Char
  | .literal c isByte => classChar c isByte
  | _ => throw .badRange

def classRange : Reader ClassPiece := do
  let first ← classItem
  skipIgnored
  let _ ← peek
  let next ← peekSecond?
  if !(← sees '-') || next == some ']' || next == some '-' then
    match first with
    | .literal c isByte => return ⟨.single (← classChar c isByte), 0⟩
    | .set a => return ⟨a, 0⟩
    | .condition _ => throw .badClassItem
  else
    passOn
    let _ ← peek
    let last ← classItem
    let low ← rangeEnd first
    let high ← rangeEnd last
    if low ≤ high then return ⟨.range low high, 0⟩ else throw .badRange

/-- Reads on in a class that lies within others, until the outermost one is closed. -/
def classRest : Nat → ClassFrame → List ClassFrame → Reader ClassPiece
  | 0, _, _ => throw .unexpectedEnd
  | n + 1, f, outer => do
      skipIgnored
      let ignoresCase := (← get).options.ignoresCase
      let c ← peek
      if c == '[' then
        match posixClass? (← get).rest with
        | some (negated, a, rest) =>
            modify fun s => { s with rest }
            classRest n (f.add ⟨(a.foldedIf ignoresCase).complIf negated, 0⟩) outer
        | none => classRest n (← openClass) (f :: outer)
      else if c == ']' then
        pass
        match outer with
        | [] => return f.close ignoresCase
        | parent :: outer => classRest n (parent.add (f.close ignoresCase)) outer
      else if ← passText? "&&" then classRest n (f.await ignoresCase CharSet.inter) outer
      else if ← passText? "--" then classRest n (f.await ignoresCase CharSet.diff) outer
      else if ← passText? "~~" then classRest n (f.await ignoresCase CharSet.symmDiff) outer
      else classRest n (f.add (← classRange)) outer

def classSet : Reader ClassPiece := do
  let n ← remaining
  let whole ← classRest (n + 1) (← openClass) []
  if (← get).options.unicode then return whole
  unless whole.set.isAscii do throw .splitsCharacters
  return { whole with set := .inter whole.set .ascii }

end Reader

end SheetExport
