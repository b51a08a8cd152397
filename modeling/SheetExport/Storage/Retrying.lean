import SheetExport.Storage.Basic

/-!
# Trying again

A storage that makes several attempts to save a file, as long as failures may go away. Each attempt
begins where the content stood at first.
-/

namespace SheetExport.FileStorage

variable {σ : Type}

/-- Up to `n + 1` attempts to save, each from the position `start` on. -/
def attempts (inner : FileStorage σ) (name contentType : String) (length start : Nat) :
    Nat → Action (σ × Content) String
  | 0 => rewound
  | n + 1 => .of fun s =>
      match rewound.on s with
      | (.error e, s) =>
          if e.isRetryable then (attempts inner name contentType length start n).on s else (.error e, s)
      | done => done
where
  rewound : Action (σ × Content) String := do
    modify fun (s, c) => (s, { c with position := start })
    inner.save name contentType length

/-- The attempts that are made unless something else is asked for. -/
def defaultAttempts : Nat := 3

/-- The storage that makes up to `maxAttempts` attempts to save, and at least one. -/
def retrying (inner : FileStorage σ) (maxAttempts : Nat) : FileStorage σ where
  save name contentType length := do
    attempts inner name contentType length (← get).2.position (max maxAttempts 1 - 1)
  delete := inner.delete

end SheetExport.FileStorage
