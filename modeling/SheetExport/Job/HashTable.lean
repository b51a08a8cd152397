import SheetExport.Calendar.Moment
import SheetExport.Job.HashStore

/-!
# Hashes in memory

Every operation first drops the hashes whose time has run out. A hash to which no field was written is
there all the same. A hash cannot be given more time than its clock can count.
-/

namespace SheetExport

structure TableEntry where
  fields : Fields
  /-- When it goes, on the clock that only goes on. -/
  expiresAt : Option Nat

/-- The time of an entry has not run out. -/
def TableEntry.isLive (now : Moment) (e : TableEntry) : Bool :=
  match e.expiresAt with
  | some t => decide (now.elapsed < t)
  | none => true

abbrev HashTable := Keyed TableEntry

namespace HashTable

/-- The table without the entries whose time has run out. -/
def prune (now : Moment) (t : HashTable) : HashTable := t.filter fun e => e.2.isLive now

def write (key : String) (fields : Fields) (t : HashTable) : HashTable :=
  let e := (Keyed.find? t key).getD ⟨[], none⟩
  Keyed.insert t key { e with fields := e.fields.insertAll fields }

/-- The table with an entry that goes at a moment, if there is such an entry. -/
def schedule (key : String) (expiresAt : Nat) (t : HashTable) : HashTable :=
  match Keyed.find? t key with
  | some e => Keyed.insert t key { e with expiresAt := some expiresAt }
  | none => t

/-- Giving a hash more time than the clock can tell breaks the call off: it panics, which is told here as a failure. -/
def beyondClock : ExportError := .io (.other "overflow when adding duration to instant")

/-- Gives a hash a lifetime, if there is such a hash. One whose end the clock cannot tell stays as it is. -/
def postpone (now : Moment) (key : String) (lifetime : Nat) (t : HashTable) :
    Except ExportError Unit × HashTable :=
  if now.Tells lifetime then (.ok (), t.schedule key (now.elapsed + lifetime))
  else (if (Keyed.find? t key).isSome then .error beyondClock else .ok (), t)

/-- What a call answers about the pruned table, and how it changes it. -/
def after {α : Type} (f : Moment → HashTable → α × HashTable) : Action (HashTable × Moment) α :=
  .of fun (t, now) =>
    let (a, t) := f now (t.prune now)
    (.ok a, t, now)

/-- The store that keeps hashes in memory. Its state holds the present moment, which it reads and does not
    change. -/
def store : HashStore (HashTable × Moment) where
  putAll key fields := after fun _ t => ((), t.write key fields)
  entries key := after fun _ t => (((Keyed.find? t key).map TableEntry.fields).getD [], t)
  expire key lifetime := .of fun (t, now) =>
    let (outcome, t) := (t.prune now).postpone now key lifetime
    (outcome, t, now)
  put key field value := after fun _ t => ((), t.write key [(field, value)])
  find? key field := after fun _ t => ((Keyed.find? t key).bind fun e => e.fields.find? field, t)
  contains key := after fun _ t => ((Keyed.find? t key).isSome, t)

end HashTable

end SheetExport
