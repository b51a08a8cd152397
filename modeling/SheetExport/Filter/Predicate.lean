import SheetExport.Error
import SheetExport.Filter.Engine
import SheetExport.Filter.Order
import SheetExport.Text.Blank

/-!
# Predicates on values

A predicate says which values of a field pass a filter: those equal to a value, those in a list, those
within bounds, or texts that match a pattern. `Predicate.check` refuses the predicates that no filter
may contain.
-/

namespace SheetExport

/-- Why a filter is refused. -/
inductive FilterFault where
  | badKey (key : String)
  /-- A map stands where a value should. -/
  | notScalar (key : String)
  | noValues
  | tooManyValues
  | noBound
  | blankPattern
  | longPattern
  | badOption (option : Char)
  /-- The pattern cannot be compiled, for a reason that its engine gives. -/
  | badPattern (reason : String)
  deriving DecidableEq, Repr

/-- The greatest number of values in a list. -/
def maxListedValues : Nat := 1000

/-- The greatest number of characters of a pattern. -/
def maxPatternLength : Nat := 256

def FilterFault.toError : FilterFault → ExportError
  | badKey key => .invalidValue "filter.key"
      ("Filter key must contain only alphanumeric characters, dots, and underscores. " ++
        "Pattern: ^[a-zA-Z0-9._]+$") key
  | notScalar key => .invalidValue "filter.value"
      "Filter values must be scalars or typed predicates, not maps" key
  | noValues => .invalid "filter.value" "IN filter values must not be empty"
  | tooManyValues => .invalid "filter.value"
      ("IN filter values size must be <= " ++ toString maxListedValues)
  | noBound => .invalid "filter.value" "Range filter must have at least one bound"
  | blankPattern => .invalid "filter.value" "Regex pattern must not be blank"
  | longPattern => .invalid "filter.value"
      ("Regex pattern length must be <= " ++ toString maxPatternLength)
  | badOption option => .invalidValue "filter.value" "Unsupported regex option" option.toString
  | badPattern reason => .invalid "filter.value" reason

/-- Bounds on values, each of which may be missing. -/
structure Bounds where
  above : Option CellValue
  atLeast : Option CellValue
  below : Option CellValue
  atMost : Option CellValue
  deriving DecidableEq, Repr

namespace Bounds

def isEmpty (b : Bounds) : Bool :=
  b.above.isNone && b.atLeast.isNone && b.below.isNone && b.atMost.isNone

/-- The value is in an order with the bound that `p` accepts, or there is no bound. -/
def respects (value : CellValue) (p : Ordering → Bool) : Option CellValue → Bool
  | some bound => (value.order bound).any p
  | none => true

/-- The value is within all bounds. One that cannot be compared with a bound is not. -/
def contains (b : Bounds) (value : CellValue) : Bool :=
  respects value (· == .gt) b.above && respects value (· != .lt) b.atLeast &&
    respects value (· == .lt) b.below && respects value (· != .gt) b.atMost

end Bounds

inductive Predicate where
  | equals (value : CellValue)
  | oneOf (values : List CellValue)
  | within (bounds : Bounds)
  | like (pattern : String) (options : Option String)
  deriving DecidableEq, Repr

variable [RegexEngine]

inductive Test where
  | equals (value : CellValue)
  | oneOf (values : List CellValue)
  | within (bounds : Bounds)
  | like (pattern : RegexEngine.Compiled)

def patternOptions : List Char := ['i', 'm', 's', 'x']

def patternText (pattern : String) : Option String → String
  | some options => if options.isEmpty then pattern else "(?" ++ options ++ ")" ++ pattern
  | none => pattern

namespace Predicate

def compile : Predicate → Except FilterFault Test
  | equals value => .ok (.equals value)
  | oneOf values => .ok (.oneOf values)
  | within bounds => .ok (.within bounds)
  | like pattern options =>
      match RegexEngine.compile (patternText pattern options) with
      | .ok pattern => .ok (.like pattern)
      | .error reason => .error (.badPattern reason)

def check (p : Predicate) : Except FilterFault Unit :=
  match p with
  | equals _ => .ok ()
  | oneOf values =>
      if values.isEmpty then .error .noValues
      else if maxListedValues < values.length then .error .tooManyValues
      else .ok ()
  | within bounds => if bounds.isEmpty then .error .noBound else .ok ()
  | like pattern options =>
      if Text.isBlankText pattern then .error .blankPattern
      else if maxPatternLength < pattern.length then .error .longPattern
      else match (options.getD "").toList.find? fun c => !patternOptions.contains c with
        | some option => .error (.badOption option)
        | none => p.compile.map fun _ => ()

end Predicate

def Test.holds (value : CellValue) : Test → Bool
  | equals expected => value.matchesValue expected
  | oneOf values => values.any value.matchesValue
  | within bounds => bounds.contains value
  | like pattern =>
      match value with
      | .text s => RegexEngine.isMatch pattern s
      | _ => false

end SheetExport
