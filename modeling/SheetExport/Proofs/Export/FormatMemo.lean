import SheetExport.Export.FormatMemo
import SheetExport.Proofs.Action
import SheetExport.Proofs.Keyed
import SheetExport.Proofs.Workbook.Numbering

/-! # Remembered formats are the registered ones

What an export remembers of the formats of its values agrees with its style sheet. So asking for a format is the same as
registering its style, whether or not the style sheet is asked: a style that is known keeps its number and
is not registered again.
-/

namespace SheetExport

theorem Workbook.register_on [Gzip] (style : Style) (book : Workbook) :
    (register style).on book =
      (.ok (book.styles.register style).1, { book with styles := (book.styles.register style).2 }) :=
  rfl

namespace FormatMemo

variable {memo : FormatMemo} {border : Bool} {s : StyleSheet}

/-- Every number that is remembered is the number of its style in a style sheet. -/
def Agrees (memo : FormatMemo) (border : Bool) (s : StyleSheet) : Prop :=
  ∀ pattern n, memo.find? pattern = some n → s.number? ⟨pattern, false, border⟩ = some n

theorem find?_add (memo : FormatMemo) (n : Nat) (pattern other : Option String) :
    (memo.add n pattern).find? other = if other = pattern then some n else memo.find? other := by
  cases pattern <;> cases other <;> simp [add, find?]

theorem agrees_empty (border : Bool) (s : StyleSheet) : empty.Agrees border s := by
  rintro (_ | pattern) n found <;> cases found

namespace Agrees

/-- Whatever is registered, what is remembered stays right. -/
theorem register (agrees : memo.Agrees border s) (style : Style) : memo.Agrees border (s.register style).2 :=
  fun pattern n found => StyleSheet.number?_register_of_some style (agrees pattern n found)

theorem add (agrees : memo.Agrees border s) {pattern : Option String} {n : Nat}
    (number : s.number? ⟨pattern, false, border⟩ = some n) : (memo.add n pattern).Agrees border s := by
  intro other m found
  rw [find?_add] at found
  split at found
  · rename_i same
    cases found
    rwa [same]
  · exact agrees other m found

/-- Asking for the format of a value comes to registering its style. -/
theorem numberFor_on [Gzip] {book : Workbook} (agrees : memo.Agrees border book.styles) (pattern : Option String) :
    let registered := book.styles.register ⟨pattern, false, border⟩
    ∃ memo', (numberFor border pattern).on (book, memo) =
        (.ok registered.1, { book with styles := registered.2 }, memo') ∧
      memo'.Agrees border registered.2 := by
  dsimp only
  rw [numberFor, ActionOf.on_get_bind]
  cases found : memo.find? pattern with
  | some n =>
      rw [StyleSheet.register_known (agrees pattern n found)]
      exact ⟨memo, rfl, agrees⟩
  | none =>
      refine ⟨memo.add (book.styles.register ⟨pattern, false, border⟩).1 pattern, ?_,
        (agrees.register _).add (StyleSheet.number?_register book.styles _)⟩
      dsimp only
      rw [ActionOf.on_bind_ok (ActionOf.on_first_of (Workbook.register_on _ book) memo)]
      rfl

end Agrees

end FormatMemo

end SheetExport
