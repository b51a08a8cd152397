import SheetExport.Action

/-!
# Storages for finished files

A storage keeps files and answers with a locator, by which a file can be deleted again. What is saved
comes from a `Content`, which is read from a position on, so that every attempt to save it leaves the
position where the attempt has got to.
-/

namespace SheetExport

def spreadsheetType : String := "application/vnd.openxmlformats-officedocument.spreadsheetml.sheet"

structure Content where
  bytes : ByteArray
  position : Nat

namespace Content

/-- The bytes from the position on, at most `n` of them. -/
def upcoming (c : Content) (n : Nat) : ByteArray := c.bytes.extract c.position (c.position + n)

/-- Reads at most `n` bytes. -/
def take {ε σ : Type} (n : Nat) : ActionOf ε (σ × Content) ByteArray := .of fun (s, c) =>
  let bytes := c.upcoming n
  (.ok bytes, s, { c with position := c.position + bytes.size })

end Content

structure FileStorage (σ : Type) where
  /-- Saves the next `length` bytes of a content under a name and yields a locator. -/
  save : (name contentType : String) → (length : Nat) → Action (σ × Content) String
  /-- Deletes the file with a locator; there need not be one. -/
  delete : (locator : String) → Action σ Unit

def FileStorage.within {σ τ : Type} (part : τ → σ) (put : σ → τ → τ) (inner : FileStorage σ) :
    FileStorage τ where
  save name contentType length := (inner.save name contentType length).within
    (fun (t, c) => (part t, c)) fun (s, c) (t, _) => (put s t, c)
  delete locator := (inner.delete locator).within part put

/-- A text that names a file and not a way to it. -/
def isFileName (name : String) : Bool :=
  !name.isEmpty && !name.contains '/' && name != "." && name != ".."

/-! ## Ways -/

/-- What a text says part by part, when it is read as a way in a file system. -/
inductive WayPart where
  /-- The way begins at the root. -/
  | root
  /-- The way begins where one is. -/
  | here
  | up
  | name (text : String)
  deriving DecidableEq, Repr

/-- What stands between two slashes says. Nothing says nothing, and neither does a `.`. -/
def WayPart.ofPiece (piece : List Char) : Option WayPart :=
  if piece = [] ∨ piece = ['.'] then none
  else if piece = ['.', '.'] then some .up
  else some (.name (String.ofList piece))

/-- The parts of a way. A `.` is a part only where the way begins with it. -/
def wayParts (text : String) : List WayPart :=
  let pieces := text.toList.splitOn '/'
  let parts := pieces.filterMap WayPart.ofPiece
  if text.toList.head? = some '/' then .root :: parts
  else if pieces.head? = some ['.'] then .here :: parts
  else parts

/-- The name at the end of a way, if there is one. -/
def lastName? (text : String) : Option String :=
  match (wayParts text).getLast? with
  | some (.name last) => some last
  | _ => none

/-- Refuses a text that is not a way of one part, with that part for its name. -/
def demandFileName (name : String) : Except ExportError Unit :=
  if name ≠ "" ∧ (wayParts name).length = 1 ∧ lastName? name = some name then .ok ()
  else .error (.invalidValue "file_name" "File name must not contain path separators" name)

end SheetExport
