/-!
# Lists of values with names

Each name occurs at most once. A value that is put under a name comes last, whether it is new or replaces
another.
-/

namespace SheetExport

abbrev Keyed (α : Type) := List (String × α)

namespace Keyed

variable {α : Type}

def find? (xs : Keyed α) (name : String) : Option α := xs.lookup name

def erase (xs : Keyed α) (name : String) : Keyed α := xs.filter fun x => x.1 != name

/-- The values with the one under the name replaced or added. -/
def insert (xs : Keyed α) (name : String) (a : α) : Keyed α := xs.erase name ++ [(name, a)]

/-- The values with several replaced or added one after another. -/
def insertAll (xs : Keyed α) (news : Keyed α) : Keyed α := news.foldl (fun xs n => xs.insert n.1 n.2) xs

end Keyed

end SheetExport
