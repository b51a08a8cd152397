import SheetExport.Error

/-!
# Trees of files

A file system without links: directories and files by their paths from the root. A text names a place in
it as the system resolves it: empty components and `.` stay where they are, `..` goes to the directory
above, and every directory on the way must be there.
-/

namespace SheetExport

inductive FileNode where
  | directory
  | file (bytes : ByteArray)

abbrev FilePath := List String

/-- What is at which place; the root is always a directory. -/
structure FileTree where
  nodes : List (FilePath × FileNode)

namespace FileTree

def empty : FileTree := ⟨[]⟩

def find? (t : FileTree) (path : FilePath) : Option FileNode :=
  if path = [] then some .directory else t.nodes.lookup path

def erase (t : FileTree) (path : FilePath) : FileTree := ⟨t.nodes.filter fun n => n.1 != path⟩

def insert (t : FileTree) (path : FilePath) (node : FileNode) : FileTree :=
  ⟨(t.erase path).nodes ++ [(path, node)]⟩

/-- The greatest number of bytes of a component. -/
def maxNameBytes : Nat := 255

/-- The greatest number of bytes of a text that names a place. -/
def maxPathBytes : Nat := 4095

/-- What is at a place within a directory; a name that is too long cannot even be asked for. -/
def entry (t : FileTree) (directory : FilePath) (name : String) : Except IoFault (Option FileNode) :=
  if maxNameBytes < name.utf8ByteSize then .error .nameTooLong else .ok (t.find? (directory ++ [name]))

def walk (t : FileTree) : FilePath → List String → Except IoFault FilePath
  | directory, [] => .ok directory
  | directory, name :: rest =>
      if name = "." then walk t directory rest
      else if name = ".." then walk t directory.dropLast rest
      else match t.entry directory name with
        | .error fault => .error fault
        | .ok none => .error .notFound
        | .ok (some (.file _)) => .error .notDirectory
        | .ok (some .directory) => walk t (directory ++ [name]) rest

def components (text : String) : List String :=
  ((text.toList.splitOn '/').map .ofList).filter fun c => !c.isEmpty

/-- What a text names: a directory, and an entry of it unless the text ends in `.` or `..` or names the
    root. -/
def locate (t : FileTree) (text : String) : Except IoFault (FilePath × Option String) :=
  if text.contains '\x00' then .error .nulInPath
  else if maxPathBytes < text.utf8ByteSize then .error .nameTooLong
  else
    let names := components text
    match names.getLast? with
    | none => .ok ([], none)
    | some last => do
        let directory ← t.walk [] names.dropLast
        if last = "." || last = ".." then return (← t.walk directory [last], none)
        return (directory, some last)

def remove (t : FileTree) (text : String) : Except IoFault FileTree := do
  match ← t.locate text with
  | (_, none) => throw .isDirectory
  | (directory, some name) =>
      match ← t.entry directory name with
      | none => throw .notFound
      | some .directory => throw .isDirectory
      | some (.file _) =>
          if text.endsWith "/" then throw .notDirectory
          return t.erase (directory ++ [name])

/-- Writes the file that a text names, which need not be there. -/
def write (t : FileTree) (text : String) (bytes : ByteArray) : Except IoFault FileTree := do
  match ← t.locate text with
  | (_, none) => throw .isDirectory
  | (directory, some name) =>
      match ← t.entry directory name with
      | some .directory => throw .isDirectory
      | _ =>
          if text.endsWith "/" then throw .isDirectory
          return t.insert (directory ++ [name]) (.file bytes)

def read (t : FileTree) (text : String) : Except IoFault ByteArray := do
  match ← t.locate text with
  | (_, none) => throw .isDirectory
  | (directory, some name) =>
      match ← t.entry directory name with
      | none => throw .notFound
      | some .directory => throw .isDirectory
      | some (.file bytes) =>
          if text.endsWith "/" then throw .notDirectory
          return bytes

/-- Makes a directory and all that are missing on the way to it, from a directory on. -/
def makeAll (t : FileTree) : FilePath → List String → Except IoFault FileTree
  | _, [] => .ok t
  | directory, name :: rest =>
      match t.entry directory name with
      | .error fault => .error fault
      | .ok (some (.file _)) => .error (if rest.isEmpty then .alreadyExists else .notDirectory)
      | .ok (some .directory) => makeAll t (directory ++ [name]) rest
      | .ok none => makeAll (t.insert (directory ++ [name]) .directory) (directory ++ [name]) rest

def below (t : FileTree) (directory : FilePath) : List FilePath :=
  t.nodes.filterMap fun n =>
    if directory.isPrefixOf n.1 && n.1 != directory then some (n.1.drop directory.length) else none

end FileTree

end SheetExport
