/-!
# Progress of an export

An export tells how far it has come: when it starts, after every batch of rows, before it writes the
workbook and when it has ended.
-/

namespace SheetExport

inductive Phase where
  | starting
  | flushedBatch
  | writingWorkbook
  | completed
  | cancelled
  | failed
  deriving DecidableEq, Repr

def Phase.isTerminal : Phase → Bool
  | completed | cancelled | failed => true
  | _ => false

structure Progress where
  phase : Phase
  /-- The data rows written so far. -/
  rows : Nat
  /-- The batches flushed so far. -/
  batches : Nat
  deriving DecidableEq, Repr

end SheetExport
