import SheetExport.Keyed
import SheetExport.Storage.Basic

/-!
# Files in memory

Files are kept by their locators. A content that ends early is saved as far as it goes.
-/

namespace SheetExport

structure StoredFile where
  contentType : String
  bytes : ByteArray

abbrev MemoryFiles := Keyed StoredFile

namespace MemoryFiles

def locatorOf (name : String) : String := "memory://" ++ name

def storage : FileStorage MemoryFiles where
  save name contentType length := do
    if let .error e := demandFileName name then throw e
    let bytes ← Content.take length
    modify fun (files, c) => (Keyed.insert files (locatorOf name) ⟨contentType, bytes⟩, c)
    return locatorOf name
  delete locator := modify fun files => Keyed.erase files locator

end MemoryFiles

end SheetExport
