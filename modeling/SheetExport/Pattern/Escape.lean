import SheetExport.Pattern.Cursor

/-!
# Escapes in patterns

After a backslash, signs stand for themselves, and letters for control characters, code points, sets of
characters or conditions. Digits and all other letters are refused.
-/

namespace SheetExport

inductive Escape where
  /-- A character; `isByte` if it is given by two digits of base 16. -/
  | literal (c : Char) (isByte : Bool)
  | set (a : CharSet)
  | condition (a : Anchor)

namespace Reader

def charOf (code : Nat) : Reader Char :=
  if code.isValidChar then pure (Char.ofNat code) else throw .badEscape

/-- The digits of a code point up to the closing brace, which is passed too. -/
def bracedCode : Reader Char := do
  passOn
  let digits ← takeWhile (· != '}') (← remaining)
  let _ ← peek
  unless digits.all Text.isHexDigit && !digits.isEmpty do throw .badEscape
  passOn
  charOf (Text.ofHexDigits digits)

/-- A number of digits of base 16. -/
def fixedCode : Nat → Reader (List Char)
  | 0 => pure []
  | n + 1 => do
      let c ← peek
      unless Text.isHexDigit c do throw .badEscape
      passOn
      return c :: (← fixedCode n)

/-- A code point after its letter, which says how many digits it has. -/
def code (digits : Nat) : Reader Escape := do
  passOn
  if (← peek) == '{' then return .literal (← bracedCode) false
  return .literal (← charOf (Text.ofHexDigits (← fixedCode digits))) (digits == 2)

/-- What is before and after the first occurrence of a mark. -/
def splitAt? (mark : List Char) : List Char → Option (List Char × List Char)
  | [] => none
  | c :: rest =>
      if mark.isPrefixOf (c :: rest) then some ([], (c :: rest).drop mark.length)
      else (splitAt? mark rest).map fun (before, after) => (c :: before, after)

/-- The set with the property that is named between braces: a bare name, or a property and its value
    with `!=`, `:` or `=` between them. -/
def propertySet? (name : List Char) : Option CharSet :=
  let value (parts : List Char × List Char) : Option CharSet :=
    CharSet.propertyValue? (CharSet.plainName parts.1) (CharSet.plainName parts.2)
  match splitAt? ['!', '='] name, splitAt? [':'] name, splitAt? ['='] name with
  | some parts, _, _ => (value parts).map .compl
  | none, some parts, _ | none, none, some parts => value parts
  | none, none, none => CharSet.property? (CharSet.plainName name)

def property (negated : Bool) : Reader Escape := do
  passOn
  let first ← peek
  let name ←
    if first == '{' then do
      passOn
      let name ← takeWhile (· != '}') (← remaining)
      let _ ← peek
      pass
      pure name
    else do
      if first == '\\' then throw .badEscape
      passOn
      pure [first]
  let options := (← get).options
  unless options.unicode do throw .splitsCharacters
  match propertySet? name with
  | some a => return .set ((a.foldedIf options.ignoresCase).complIf negated)
  | none => throw .unknownProperty

def letterSet (negated : Bool) (a : CharSet) (asciiRanges : List (Char × Char)) : Reader Escape := do
  pass
  if (← get).options.unicode then return .set (a.complIf negated)
  if negated then throw .splitsCharacters
  return .set (CharSet.ofRanges asciiRanges)

/-- Passes the next character, which stands for the given one. -/
def literal (c : Char) : Reader Escape := do
  pass
  return .literal c false

/-- Passes the next character, which stands for a condition. -/
def condition (a : Anchor) : Reader Escape := do
  pass
  return .condition a

/-- The kind of word boundary that stands in braces, unless the braces hold a count. -/
def boundaryKind? : Reader (Option Anchor) := do
  let start ← get
  let isKindChar (c : Char) : Bool := c.isAlpha || c == '-'
  passOn
  if isKindChar (← peek) then
    let kind ← takeWhile isKindChar (← remaining)
    unless ← sees '}' do throw .badEscape
    pass
    match String.ofList kind with
    | "start" => return some .wordStart
    | "end" => return some .wordEnd
    | "start-half" => return some .wordStartHalf
    | "end-half" => return some .wordEndHalf
    | _ => throw .badEscape
  else
    set start
    return none

def boundary : Reader Escape := do
  pass
  if ← sees '{' then return .condition ((← boundaryKind?).getD .wordBoundary)
  return .condition .wordBoundary

/-- Signs of ASCII that stand for themselves. -/
def isSign (c : Char) : Bool := c.toNat < 128 && !c.isAlphanum && c != '<' && c != '>'

/-- What comes after a backslash, which is next. -/
def escape : Reader Escape := do
  pass
  let c ← peek
  match c with
  | 'x' => code 2
  | 'u' => code 4
  | 'U' => code 8
  | 'p' => property false
  | 'P' => property true
  | 'd' => letterSet false (.categories [.Nd]) [('0', '9')]
  | 'D' => letterSet true (.categories [.Nd]) []
  | 's' => letterSet false .blank [('\t', '\r'), (' ', ' ')]
  | 'S' => letterSet true .blank []
  | 'w' => letterSet false .word [('0', '9'), ('A', 'Z'), ('_', '_'), ('a', 'z')]
  | 'W' => letterSet true .word []
  | 'a' => literal '\x07'
  | 'f' => literal '\x0C'
  | 't' => literal '\t'
  | 'n' => literal '\n'
  | 'r' => literal '\r'
  | 'v' => literal '\x0B'
  | 'A' => condition .textStart
  | 'z' => condition .textEnd
  | 'b' => boundary
  | 'B' => condition .notWordBoundary
  | '<' => condition .wordStart
  | '>' => condition .wordEnd
  | c => if isSign c then literal c else throw .badEscape

end Reader

end SheetExport
