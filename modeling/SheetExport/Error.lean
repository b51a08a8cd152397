/-!
# Why an export fails

`ExportError` is shared by every part of an export. Each module that can fail names its own causes
and says how they become an `ExportError`; the wording of the outer message is decided here alone.
-/

namespace SheetExport

/-- What a file system or an output reports when an operation on it fails. -/
inductive IoFault where
  | notFound
  | notDirectory
  | isDirectory
  | alreadyExists
  | nameTooLong
  /-- A path that holds the character NUL cannot be given to a file system. -/
  | nulInPath
  /-- The output has no room for the bytes offered. -/
  | outputFull
  | flushRefused
  /-- Any other failure, in the words of whoever reports it. -/
  | other (text : String)
  deriving Repr, DecidableEq

def IoFault.message : IoFault → String
  | .notFound => "No such file or directory (os error 2)"
  | .notDirectory => "Not a directory (os error 20)"
  | .isDirectory => "Is a directory (os error 21)"
  | .alreadyExists => "File exists (os error 17)"
  | .nameTooLong => "File name too long (os error 36)"
  | .nulInPath => "file name contained an unexpected NUL byte"
  | .outputFull => "disk full"
  | .flushRefused => "flush failed"
  | .other text => text

inductive ExportError where
  | cancelled
  /-- A data source could not be opened or read. -/
  | dataSource (source : Option String) (message : String) (cause : Option String)
  | streamProcessing (processed : Nat) (message : String)
  /-- Rows do not fit the schema. -/
  | schema (entityType : Option String) (message : String)
  | configuration (property : Option String) (message : String)
  /-- A value handed in by a caller is refused. -/
  | validation (field : Option String) (message : String) (value : Option String)
  /-- A cell cannot be written; row and column count from zero. -/
  | cellValue (row column : Nat) (message : String)
  | resourceCleanup (resource message : String)
  | storage (message : String)
  /-- The workbook cannot be written. -/
  | write (message : String)
  | io (fault : IoFault)
  deriving Repr, DecidableEq

namespace ExportError

/-- A refused value that is not shown in the message. -/
def invalid (field message : String) : ExportError :=
  .validation (some field) message none

/-- A refused value that is shown in the message. -/
def invalidValue (field message value : String) : ExportError :=
  .validation (some field) message (some value)

def misconfigured (property message : String) : ExportError :=
  .configuration (some property) message

/-- An optional label, in brackets after a blank. -/
def label : Option String → String
  | some text => " [" ++ text ++ "]"
  | none => ""

def message : ExportError → String
  | cancelled => "Export cancelled"
  | dataSource source text _ => "DataSource" ++ label source ++ " error: " ++ text
  | streamProcessing processed text =>
      "Stream processing failed after " ++ toString processed ++ " items: " ++ text
  | schema entityType text => "Schema error" ++ label entityType ++ ": " ++ text
  | configuration property text => "Configuration error" ++ label property ++ ": " ++ text
  | validation field text value =>
      "Validation failed" ++ (match field with
        | some name => " for field [" ++ name ++ "]"
        | none => "") ++ ": " ++ text ++ (match value with
        | some shown => " (value: " ++ shown ++ ")"
        | none => "")
  | cellValue row column text =>
      "Cell error at row " ++ toString row ++ ", column " ++ toString column ++ ": " ++ text
  | resourceCleanup resource text => "Failed to cleanup resource [" ++ resource ++ "]: " ++ text
  | storage text => "Storage error: " ++ text
  | write text => "Failed to write Excel file: " ++ text
  | io fault => "IO error: " ++ fault.message

/-- Failures that may go away when the same call is made again. -/
def isRetryable : ExportError → Bool
  | dataSource .. | streamProcessing .. | storage .. => true
  | _ => false

def isCancelled : ExportError → Bool
  | cancelled => true
  | _ => false

def cause : ExportError → Option String
  | dataSource _ _ cause => cause
  | io fault => some fault.message
  | _ => none

end ExportError

end SheetExport
