import SheetExport.Export.Progress
import SheetExport.Job.Basic

/-!
# Watching over the export of a job

What an export tells of its progress goes into the record of its job, and after every batch and before the
workbook is written it is looked up whether somebody wants the job to stop. A store that fails then does
not disturb the export.
-/

namespace SheetExport

structure JobWatch where
  rows : Nat
  batches : Nat
  stopRequested : Bool
  deriving DecidableEq, Repr

namespace JobWatch

variable {σ : Type}

def initial : JobWatch := ⟨0, 0, false⟩

/-- Wishes to stop are looked up in this phase. -/
def asks : Phase → Bool
  | .flushedBatch | .writingWorkbook => true
  | _ => false

/-- Takes over the counts that an export tells, unless it only begins. -/
def hear (store : JobStore σ) (id : String) (p : Progress) : StateM (JobWatch × σ) Unit := do
  if p.phase ≠ .starting then
    modify fun (watch, s) => ({ watch with rows := p.rows, batches := p.batches }, s)
    let _ ← ((store.setProgress id p.rows p.batches).second).attempt
    if asks p.phase then
      if let .ok true ← ((store.cancelRequested id).second).attempt then
        modify fun (watch, s) => ({ watch with stopRequested := true }, s)

end JobWatch

end SheetExport
