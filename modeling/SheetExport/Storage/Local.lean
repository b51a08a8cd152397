import SheetExport.Storage.Basic
import SheetExport.Storage.FileTree

/-!
# Files in a directory

Files are kept in one directory, the root; the locator of a file is its path. A locator that does not
begin with the root is refused. A file is made before its content is read, so a content that ends early
leaves a file that is too short behind.
-/

namespace SheetExport

namespace FileTree

/-- The text of a place, with a slash before every component; the root itself has none. -/
def pathText (path : FilePath) : String := String.join (path.map fun name => "/" ++ name)

/-- The text names a place below a root, judged by its components alone: `..` is a component like any
    other, `.` is none. -/
def startsWith (text : String) (root : FilePath) : Bool :=
  text.startsWith "/" && root.isPrefixOf ((components text).filter fun c => c != ".")

def shortUpload (name : String) (copied length : Nat) : ExportError :=
  .storage ("short upload for " ++ name ++ ": " ++ toString copied ++ " of " ++ toString length ++
    " bytes")

def change {τ : Type} (f : FileTree → Except IoFault FileTree) : Action (FileTree × τ) Unit :=
  .of fun (t, rest) =>
    match f t with
    | .ok t => (.ok (), t, rest)
    | .error fault => (.error (.io fault), t, rest)

/-- The storage that keeps files in the directory `root`. -/
def storage (root : FilePath) : FileStorage FileTree where
  save name _ length := do
    if let .error e := demandFileName name then throw e
    let text := pathText root ++ "/" ++ name
    change fun t => t.write text .empty
    let bytes ← Content.take length
    change fun t => t.write text bytes
    if bytes.size ≠ length then throw (shortUpload name bytes.size length)
    return text
  delete locator := .of fun t =>
    if startsWith locator root then
      match t.remove locator with
      | .ok t => (.ok (), t)
      | .error .notFound => (.ok (), t)
      | .error fault => (.error (.io fault), t)
    else (.error (.invalidValue "locator" "Locator is outside the storage root" locator), t)

end FileTree

end SheetExport
