import SheetExport.Action
import SheetExport.Pattern.Regex
import SheetExport.Text.Numeral

/-!
# Reading the text of a pattern

A `Cursor` is what is left of a pattern together with the options in force and the group names in use.
In extended patterns blank characters and comments between the elements do not count.
-/

namespace SheetExport

inductive PatternFault where
  | unexpectedEnd
  | unopenedGroup
  | unclosedGroup
  | unsupportedGroup
  | badGroupName
  | badOption
  | nothingToRepeat
  | badCount
  | badEscape
  | unknownProperty
  | badClassItem
  | badRange
  | tooDeep
  | tooLarge
  /-- The pattern could match within the bytes of a character. -/
  | splitsCharacters
  deriving DecidableEq, Repr

structure PatternOptions where
  ignoresCase : Bool := false
  multiLine : Bool := false
  dotMatchesAll : Bool := false
  crlf : Bool := false
  unicode : Bool := true
  /-- Blank characters and comments do not count. -/
  extended : Bool := false
  deriving DecidableEq, Repr

/-- What is left of a pattern. -/
structure Cursor where
  rest : List Char
  options : PatternOptions
  names : List String

abbrev Reader (α : Type) := ActionOf PatternFault Cursor α

namespace Reader

/-- The text without the blank characters and comments that it begins with, where a comment goes on to
    the end of its line. -/
def dropIgnored (inComment : Bool) : List Char → List Char
  | [] => []
  | c :: rest =>
      if inComment then dropIgnored (c != '\n') rest
      else if c == '#' then dropIgnored true rest
      else if Text.isBlank c then dropIgnored false rest
      else c :: rest

/-- The next character, if there is one. -/
def peek? : Reader (Option Char) := return (← get).rest.head?

def peek : Reader Char := do
  match (← get).rest with
  | c :: _ => pure c
  | [] => throw .unexpectedEnd

def sees (c : Char) : Reader Bool := return (← peek?) == some c

/-- Passes what does not count in an extended pattern. -/
def skipIgnored : Reader Unit := modify fun s =>
  if s.options.extended then { s with rest := dropIgnored false s.rest } else s

def pass : Reader Unit := modify fun s => { s with rest := s.rest.tail }

/-- Passes the next character and what does not count after it. -/
def passOn : Reader Unit := do
  pass
  skipIgnored

/-- Passes the given text if it comes next. -/
def passText? (text : String) : Reader Bool := do
  let s ← get
  if text.toList.isPrefixOf s.rest then
    set { s with rest := s.rest.drop text.length }
    pure true
  else pure false

def peekSecond? : Reader (Option Char) := do
  let s ← get
  return (if s.options.extended then dropIgnored false s.rest.tail else s.rest.tail).head?

/-- Takes characters as long as they satisfy `p`, passing over what does not count after each. -/
def takeWhile (p : Char → Bool) : Nat → Reader (List Char)
  | 0 => pure []
  | n + 1 => do
      match ← peek? with
      | some c =>
          if p c then
            passOn
            return c :: (← takeWhile p n)
          else pure []
      | none => pure []

/-- The number of characters left, which bounds every loop over them. -/
def remaining : Reader Nat := return (← get).rest.length

/-- A count of repetitions, with blank characters around it; absent if there are no digits. -/
def count? : Reader (Option Nat) := do
  modify fun s => { s with rest := s.rest.dropWhile Text.isBlank }
  let digits ← takeWhile Text.isDigit (← remaining)
  let _ ← takeWhile Text.isBlank (← remaining)
  if digits.isEmpty then return none
  let n := Text.ofDigits digits
  if n < 2 ^ 32 then return some n else throw .badCount

end Reader

end SheetExport
