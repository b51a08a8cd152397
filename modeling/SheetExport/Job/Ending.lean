import SheetExport.Job.Status

/-!
# How jobs end

A job that has ended is announced with what became of it.
-/

namespace SheetExport

inductive Ending where
  | completed (locator : String)
  | cancelled
  | failed (message : String)
  deriving DecidableEq, Repr

namespace Ending

def status : Ending → JobStatus
  | completed _ => .completed
  | cancelled => .cancelled
  | failed _ => .failed

def locator : Ending → Option String
  | completed locator => some locator
  | cancelled | failed _ => none

def errorMessage : Ending → Option String
  | failed message => some message
  | completed _ | cancelled => none

def isSuccess : Ending → Bool
  | completed _ => true
  | cancelled | failed _ => false

end Ending

structure JobEvent where
  id : String
  ending : Ending
  deriving DecidableEq, Repr

end SheetExport
