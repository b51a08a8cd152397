import SheetExport.Pattern.Class
import SheetExport.Pattern.Size

/-!
# Patterns from their text

`Pattern.ofText?` reads a pattern. Groups that are open are kept in a list, so reading is one loop over
the elements of the text. Options that are set within a group hold to the end of that group.
-/

namespace SheetExport

/-- A part of a pattern and how deeply parts are nested in it. A part that only sets options has no
    expression and cannot be repeated. -/
structure PatternPiece where
  regex : Option Pattern
  depth : Nat

namespace PatternPiece

/-- The expression, which matches the empty text if the part only sets options. -/
def pattern (p : PatternPiece) : Pattern := p.regex.getD .empty

/-- The greatest depth among parts. -/
def maxDepth (ps : List PatternPiece) : Nat := (ps.map depth).foldl max 0

def sequence : List PatternPiece → PatternPiece
  | [] => ⟨some .empty, 0⟩
  | [p] => p
  | ps => ⟨some (ps.foldr (fun p r => .seq p.pattern r) .empty), maxDepth ps + 1⟩

def choice : PatternPiece → List PatternPiece → PatternPiece
  | p, [] => p
  | p, ps => ⟨some (ps.foldl (fun r q => .alt r q.pattern) p.pattern), maxDepth (p :: ps) + 1⟩

end PatternPiece

/-- A group that is being read; the whole pattern counts as one. -/
structure PatternFrame where
  /-- The alternatives before the current one, the last one first. -/
  alternatives : List PatternPiece
  /-- The parts of the current alternative, the last one first. -/
  pieces : List PatternPiece
  outer : PatternOptions

namespace PatternFrame

def start (outer : PatternOptions) : PatternFrame := ⟨[], [], outer⟩

def add (f : PatternFrame) (p : PatternPiece) : PatternFrame := { f with pieces := p :: f.pieces }

def current (f : PatternFrame) : PatternPiece := .sequence f.pieces.reverse

def alternate (f : PatternFrame) : PatternFrame :=
  { f with alternatives := f.current :: f.alternatives, pieces := [] }

def whole (f : PatternFrame) : PatternPiece :=
  match (f.current :: f.alternatives).reverse with
  | first :: rest => .choice first rest
  | [] => f.current

end PatternFrame

/-- The greatest depth to which the parts of a pattern may be nested. -/
def maxPatternDepth : Nat := 250

namespace Reader

def characterPiece (c : Char) (isByte : Bool) : Reader PatternPiece := do
  let options := (← get).options
  if !options.unicode && c.toNat ≥ 128 && (isByte || options.ignoresCase) then throw .splitsCharacters
  return ⟨some (.one ((CharSet.single c).foldedIf options.ignoresCase)), 0⟩

def conditionPiece (a : Anchor) : Reader PatternPiece :=
  return ⟨some (.gap ⟨a, !(← get).options.unicode⟩), 0⟩

def dotSet : Reader CharSet := do
  let options := (← get).options
  unless options.unicode do throw .splitsCharacters
  if options.dotMatchesAll then return .anything
  if options.crlf then return .compl (.union (.single '\r') (.single '\n'))
  return .compl (.single '\n')

/-- A part that begins with none of the signs that structure a pattern. -/
def simplePiece : Reader PatternPiece := do
  let options := (← get).options
  match ← peek with
  | '\\' =>
      match ← escape with
      | .literal c isByte => characterPiece c isByte
      | .set a => return ⟨some (.one a), 0⟩
      | .condition a => conditionPiece a
  | '.' =>
      pass
      return ⟨some (.one (← dotSet)), 0⟩
  | '^' =>
      pass
      conditionPiece (if !options.multiLine then .textStart
        else if options.crlf then .crlfLineStart else .lineStart)
  | '$' =>
      pass
      conditionPiece (if !options.multiLine then .textEnd
        else if options.crlf then .crlfLineEnd else .lineEnd)
  | c =>
      pass
      characterPiece c false

def withOption (o : PatternOptions) (value : Bool) : Char → Option PatternOptions
  | 'i' => some { o with ignoresCase := value }
  | 'm' => some { o with multiLine := value }
  | 's' => some { o with dotMatchesAll := value }
  | 'R' => some { o with crlf := value }
  | 'u' => some { o with unicode := value }
  | 'x' => some { o with extended := value }
  | 'U' => some o
  | _ => none

/-- Letters of options up to a colon or a closing parenthesis: the options they ask for, and whether
    there are any. `seen` are the letters so far, the last one first; none may occur twice, and a hyphen
    must not be the last one. -/
def optionLetters : Nat → PatternOptions → List Char → Reader (PatternOptions × Bool)
  | 0, _, _ => throw .unexpectedEnd
  | n + 1, options, seen => do
      let c ← peek
      if c == ':' || c == ')' then
        if seen.head? == some '-' then throw .badOption
        return (options, !seen.isEmpty)
      if seen.contains c then throw .badOption
      pass
      if c == '-' then optionLetters n options ('-' :: seen)
      else match withOption options (!seen.contains '-') c with
        | some options => optionLetters n options (c :: seen)
        | none => throw .badOption

/-- A character that a group name may hold, at its beginning or after it. -/
def isNameChar (first : Bool) (c : Char) : Bool :=
  let letter := wordCategories.contains (category c) &&
    !([.Mn, .Mc, .Me, .Nd, .Pc] : List Category).contains (category c)
  c == '_' || letter || (!first && (c == '.' || c == '[' || c == ']' ||
    [Category.Nd, .Nl, .No].contains (category c)))

def groupName : Reader Unit := do
  let s ← get
  let name := s.rest.takeWhile (· != '>')
  let text := String.ofList name
  let valid := match name with
    | c :: rest => isNameChar true c && rest.all (isNameChar false)
    | [] => false
  unless valid && name.length < s.rest.length && !s.names.contains text do throw .badGroupName
  set { s with rest := s.rest.drop (name.length + 1), names := text :: s.names }

/-- What an opening parenthesis begins: a group, or options for the rest of the group that it is in. -/
def groupStart (f : PatternFrame) (outer : List PatternFrame) :
    Reader (PatternFrame × List PatternFrame) := do
  let before := (← get).options
  let group : PatternFrame × List PatternFrame := (.start before, f :: outer)
  passOn
  for mark in ["?=", "?!", "?<=", "?<!"] do
    if ← passText? mark then throw .unsupportedGroup
  if ← passText? "?P<" then groupName; return group
  if ← passText? "?<" then groupName; return group
  if ← passText? "?" then
    let (options, any) ← optionLetters (← remaining) before []
    let last ← peek
    pass
    if last == ')' && !any then throw .nothingToRepeat
    modify fun s => { s with options }
    return if last == ')' then (f.add ⟨none, 0⟩, outer) else group
  return group

def bounds : Reader (Nat × Option Nat) := do
  passOn
  let least ← count?
  match ← peek, least with
  | _, none => throw .badCount
  | '}', some n => return (n, some n)
  | ',', some n =>
      passOn
      if ← sees '}' then return (n, none)
      match ← count? with
      | none => throw .badCount
      | some m =>
          unless ← sees '}' do throw .badCount
          return (n, some m)
  | _, _ => throw .badCount

/-- The last part, repeated. A question mark after the repetition makes it reluctant. -/
def repeated (f : PatternFrame) (least : Nat) (most : Option Nat) : Reader PatternFrame := do
  match f.pieces with
  | ⟨some r, depth⟩ :: pieces =>
      if ← sees '?' then pass
      if most.any (· < least) then throw .badCount
      return { f with pieces := ⟨some (.times r least most), depth + 1⟩ :: pieces }
  | _ => throw .nothingToRepeat

/-- Reads on in a group that lies within others, up to the end of the text. -/
def patternRest : Nat → PatternFrame → List PatternFrame → Reader PatternPiece
  | 0, _, _ => throw .unexpectedEnd
  | n + 1, f, outer => do
      skipIgnored
      match ← peek?, outer with
      | none, [] => return f.whole
      | none, _ => throw .unclosedGroup
      | some '(', _ =>
          let (f, outer) ← groupStart f outer
          patternRest n f outer
      | some ')', [] => throw .unopenedGroup
      | some ')', parent :: outer =>
          modify fun s => { s with options := f.outer }
          pass
          let group := f.whole
          patternRest n (parent.add ⟨some group.pattern, group.depth + 1⟩) outer
      | some '|', _ =>
          pass
          patternRest n f.alternate outer
      | some '[', _ =>
          let piece ← classSet
          patternRest n (f.add ⟨some (.one piece.set), piece.depth⟩) outer
      | some '?', _ =>
          pass
          patternRest n (← repeated f 0 (some 1)) outer
      | some '*', _ =>
          pass
          patternRest n (← repeated f 0 none) outer
      | some '+', _ =>
          pass
          patternRest n (← repeated f 1 none) outer
      | some '{', _ =>
          let (least, most) ← bounds
          passOn
          patternRest n (← repeated f least most) outer
      | some _, _ => patternRest n (f.add (← simplePiece)) outer

def pattern : Reader Pattern := do
  let piece ← patternRest ((← remaining) + 1) (.start {}) []
  if maxPatternDepth < piece.depth then throw .tooDeep
  if maxPatternBytes < piece.pattern.size then throw .tooLarge
  return piece.pattern

end Reader

def Pattern.ofText? (text : String) : Except PatternFault Pattern :=
  (Reader.pattern.on { rest := text.toList, options := {}, names := [] }).1

end SheetExport
