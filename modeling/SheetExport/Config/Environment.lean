import SheetExport.Config.Basic
import SheetExport.Text.Blank
import SheetExport.Text.Numeral

/-!
# Configurations from environment variables

Every setting has a variable of its own. One that is not set leaves the setting at its default, and
the sizes at those of the profile that `MEMORY_LIMIT_MB` stands for. A variable that is set but cannot
be read is an error, except for the memory limit, which then counts as high.
-/

namespace SheetExport

/-- The texts of the variables that are set. One whose value is no text counts as not set. -/
abbrev Environment := String → Option String

/-- The profile for the memory limit that the environment names. -/
def MemoryProfile.ofEnvironment (env : Environment) : MemoryProfile :=
  match (env "MEMORY_LIMIT_MB").bind fun text => Text.readWord? (Text.trim text) with
  | some limit => .ofMegabytes limit
  | none => .high

/-- A truth value in words. Letters outside ASCII occur in none of the words, so only ASCII letters
    need a lower case. -/
def readFlag? (text : String) : Option Bool :=
  match (Text.trim text).map Char.toLower with
  | "true" | "yes" | "1" | "on" => some true
  | "false" | "no" | "0" | "off" => some false
  | _ => none

namespace Environment

/-- The number that a variable holds, or the default if it is not set. -/
def size {α : Type} (env : Environment) (name : String) (ofNat : Nat → α) (default : α) :
    Except ExportError α :=
  match env name with
  | none => .ok default
  | some text =>
      match Text.readWord? (Text.trim text) with
      | some n => .ok (ofNat n)
      | none => .error (.misconfigured name ("cannot parse '" ++ text ++ "'"))

/-- The truth value that a variable holds, or the default if it is not set. -/
def flag (env : Environment) (name : String) (default : Bool) : Except ExportError Bool :=
  match env name with
  | none => .ok default
  | some text =>
      match readFlag? text with
      | some b => .ok b
      | none => .error (.misconfigured name ("expected a boolean, got '" ++ text ++ "'"))

end Environment

/-- The settings that the environment asks for. Variables are read in this order, and the first that
    cannot be read is reported. -/
def Settings.ofEnvironment (env : Environment) : Except ExportError Settings := do
  let base : Settings := Settings.withProfile {} (.ofEnvironment env)
  let window ← env.size "SHEETSTREAM_ROW_WINDOW_SIZE" id base.window
  let flushBatch ← env.size "SHEETSTREAM_FLUSH_BATCH_SIZE" id base.flushBatch
  let compressSpill ← env.flag "SHEETSTREAM_COMPRESS_TEMP_FILES" base.compressSpill
  let styleHeader ← env.flag "SHEETSTREAM_APPLY_HEADER_STYLE" base.styleHeader
  let borderData ← env.flag "SHEETSTREAM_APPLY_DATA_BORDERS" base.borderData
  let escapeFormulas ← env.flag "SHEETSTREAM_PREVENT_FORMULA_INJECTION" base.escapeFormulas
  let recordMetrics ← env.flag "SHEETSTREAM_ENABLE_METRICS" base.recordMetrics
  let maxRows ← env.size "SHEETSTREAM_MAX_ROWS" some base.maxRows
  return Settings.mk window flushBatch compressSpill styleHeader borderData escapeFormulas recordMetrics
    maxRows

def Config.ofEnvironment (env : Environment) : Except ExportError Config := do
  (← Settings.ofEnvironment env).check

end SheetExport
