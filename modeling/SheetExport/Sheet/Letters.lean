import SheetExport.Sheet.Row

/-!
# Letters of columns, kept for the rows to come

All rows of a sheet need the letters of the same few columns. A `LetterTable` makes the letters of a
column when it is first asked for that column or a later one, and keeps them. `Row.tokensBy` is how a row
is written with the letters of a table; the text is that of `Row.tokens`.
-/

namespace SheetExport

/-- The letters of the first columns. -/
structure LetterTable where
  known : Array String
  known_eq : ∀ column (inside : column < known.size), known[column] = columnLetters column

namespace LetterTable

def empty : LetterTable := ⟨#[], by simp⟩

/-- The same table with one more column. -/
def extend (t : LetterTable) : LetterTable where
  known := t.known.push (columnLetters t.known.size)
  known_eq column inside := by
    rw [Array.getElem_push]
    split
    · exact t.known_eq column _
    · next last =>
        rw [Array.size_push] at inside
        rw [Nat.le_antisymm (Nat.le_of_lt_succ inside) (Nat.le_of_not_lt last)]

/-- Columns are added until the given one is there. -/
def reach (t : LetterTable) (column : Nat) : LetterTable :=
  if t.known.size ≤ column then t.extend.reach column else t
termination_by column + 1 - t.known.size
decreasing_by
  rw [extend, Array.size_push]
  omega

theorem lt_size_reach (t : LetterTable) (column : Nat) : column < (t.reach column).known.size := by
  induction t using reach.induct column with
  | case1 t short ih => rwa [reach, if_pos short]
  | case2 t long =>
      rw [reach, if_neg long]
      exact Nat.lt_of_not_le long

/-- The letters of a column, from the table as it then is. -/
def ask (column : Nat) : StateM LetterTable String := fun t =>
  have inside := t.lt_size_reach column
  ((t.reach column).known[column], t.reach column)

end LetterTable

open Xml

/-- The tokens by which a cell at a place is written, its letters being looked up. An omitted cell asks for none. -/
def Cell.tokensBy (c : Cell) (row column : Nat) : StateM LetterTable (List Token) := do
  if c.isOmitted then return []
  let letters ← LetterTable.ask column
  return [.startTag "c", .raw " r=\"", .raw letters, .int (row + 1 : Nat), .raw "\""] ++
    (if c.format = 0 then [] else [.intAttr "s" c.format]) ++ c.value.tokens

namespace Row

def cellTokensBy (row : Nat) : List Cell → Nat → StateM LetterTable (List Token)
  | [], _ => pure []
  | c :: rest, column => do return (← c.tokensBy row column) ++ (← cellTokensBy row rest (column + 1))

def tokensBy (r : Row) : StateM LetterTable (List Token) := do
  return [.startTag "row", .intAttr "r" (r.index + 1 : Nat), .close] ++ (← cellTokensBy r.index r.cells 0) ++
    [.endTag "row"]

end Row

end SheetExport
