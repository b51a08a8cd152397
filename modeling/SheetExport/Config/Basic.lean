import SheetExport.Config.Profile
import SheetExport.Error

/-!
# Configurations

`Settings` are what somebody asks for; a `Config` is settings that an export can work with, that is,
none of its sizes is zero. `Settings.check` is the only way from one to the other besides the presets.
-/

namespace SheetExport

structure Settings where
  /-- The number of rows that stay in memory. -/
  window : Nat := 100
  /-- The number of rows between two flushes. -/
  flushBatch : Nat := 1000
  compressSpill : Bool := true
  styleHeader : Bool := true
  borderData : Bool := true
  /-- Texts that would be taken for formulas are escaped. -/
  escapeFormulas : Bool := true
  recordMetrics : Bool := false
  /-- The greatest number of data rows, if there is one. -/
  maxRows : Option Nat := none
  deriving DecidableEq, Repr

structure Config extends Settings where
  window_pos : 0 < window := by decide
  flushBatch_pos : 0 < flushBatch := by decide
  maxRows_pos : maxRows ≠ some 0 := by decide

namespace Settings

def withProfile (s : Settings) (profile : MemoryProfile) : Settings :=
  { s with window := profile.sizes.1, flushBatch := profile.sizes.2 }

/-- The failure for a size that is zero. -/
def zeroSize (name : String) : ExportError := .misconfigured name (name ++ " must be positive")

/-- Settings without a size that is zero; the first such size is reported. -/
def check (s : Settings) : Except ExportError Config :=
  if window_pos : 0 < s.window then
    if flushBatch_pos : 0 < s.flushBatch then
      if maxRows_pos : s.maxRows ≠ some 0 then
        .ok { s with window_pos, flushBatch_pos, maxRows_pos }
      else .error (zeroSize "max_rows")
    else .error (zeroSize "flush_batch_size")
  else .error (zeroSize "row_window_size")

end Settings

namespace Config

/-- What an export does unless told otherwise. -/
def default : Config := {}

def highPerformance : Config :=
  { window := 50, flushBatch := 500, styleHeader := false, borderData := false }

def securityHardened : Config := { escapeFormulas := true, compressSpill := true }

def highQuality : Config := { window := 200, flushBatch := 2000 }

end Config

end SheetExport
