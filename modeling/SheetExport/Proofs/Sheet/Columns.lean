import Mathlib.Data.List.Induction
import Mathlib.Data.Prod.Lex
import Mathlib.Data.String.Basic
import SheetExport.Proofs.Sheet.Letters

/-! # Columns and their letters

A number and its letters are two writings of the same digits, from 1 to 26 and without a zero. So every text of capital
letters stands for one number, and numbers are in the order of their letters: the shorter text first, and of two
texts of one length the one that is first in a dictionary. Both follow the last digit, as the writing of numbers does.
A sheet has the letters of its columns from a table, which does not change what they are.
-/

namespace SheetExport

open Xml

/-- A text that can be the letters of a column. -/
def IsColumnText (s : String) : Prop := s ≠ "" ∧ ∀ c ∈ s.toList, 'A' ≤ c ∧ c ≤ 'Z'

/-- Shorter, or of one length and earlier in a dictionary. -/
def ComesBefore (s t : String) : Prop := s.length < t.length ∨ s.length = t.length ∧ s < t

/-! ## The last digit -/

theorem bijectiveLetters_digit (q : Nat) {d : Nat} (digit : d < 26) :
    bijectiveLetters (26 * q + d + 1) = bijectiveLetters q ++ [letterOf d] := by
  have rest : (26 * q + d + 1 - 1) / 26 = q := by omega
  have last : (26 * q + d + 1 - 1) % 26 = d := by omega
  rw [bijectiveLetters, if_neg (Nat.succ_ne_zero _), rest, last]

theorem exists_last_digit {n : Nat} (positive : n ≠ 0) : ∃ q d, d < 26 ∧ n = 26 * q + d + 1 :=
  ⟨(n - 1) / 26, (n - 1) % 26, Nat.mod_lt _ (by decide), by omega⟩

theorem columnNumber_concat (cs : List Char) (c : Char) :
    columnNumber (cs ++ [c]) = 26 * columnNumber cs + (c.toNat - 'A'.toNat) + 1 := by
  rw [columnNumber, List.foldl_append]
  rfl

/-- A capital letter is that of its own digit. -/
theorem letterOf_capital {c : Char} (capital : 'A' ≤ c ∧ c ≤ 'Z') :
    c.toNat - 'A'.toNat < 26 ∧ letterOf (c.toNat - 'A'.toNat) = c := by
  have low : 'A'.toNat ≤ c.toNat := capital.1
  have high : c.toNat ≤ 'Z'.toNat := capital.2
  refine ⟨Nat.lt_of_le_of_lt (Nat.sub_le_sub_right high _) (by decide), ?_⟩
  rw [letterOf, Nat.add_sub_cancel' low, Char.ofNat_toNat]

/-- Capital letters are those of the number that they denote. -/
theorem bijectiveLetters_columnNumber {cs : List Char} (capitals : ∀ c ∈ cs, 'A' ≤ c ∧ c ≤ 'Z') :
    bijectiveLetters (columnNumber cs) = cs := by
  induction cs using List.reverseRecOn with
  | nil => simp [columnNumber, bijectiveLetters]
  | append_singleton cs c ih =>
      rw [List.forall_mem_append, List.forall_mem_singleton] at capitals
      obtain ⟨digit, same⟩ := letterOf_capital capitals.2
      rw [columnNumber_concat, bijectiveLetters_digit _ digit, ih capitals.1, same]

theorem length_bijectiveLetters_pos {n : Nat} (positive : n ≠ 0) : 0 < (bijectiveLetters n).length := by
  obtain ⟨q, d, digit, rfl⟩ := exists_last_digit positive
  rw [bijectiveLetters_digit q digit, List.length_append]
  exact Nat.succ_pos _

/-! ## Order -/

theorem lt_concat_of_lt {cs ds : List Char} (c d : Char) (same : cs.length = ds.length) (before : cs < ds) :
    cs ++ [c] < ds ++ [d] := by
  induction cs generalizing ds with
  | nil =>
      rw [List.eq_nil_of_length_eq_zero same.symm] at before
      exact absurd before (List.not_lt_nil [])
  | cons a cs ih =>
      cases ds with
      | nil => cases same
      | cons b ds =>
          obtain first | ⟨rfl, later⟩ := List.cons_lt_cons_iff.mp before
          · exact List.cons_lt_cons_iff.mpr (.inl first)
          · exact List.cons_lt_cons_iff.mpr (.inr ⟨rfl, ih (Nat.succ.inj same) later⟩)

theorem concat_lt_concat (cs : List Char) {c d : Char} (before : c < d) : cs ++ [c] < cs ++ [d] := by
  induction cs with
  | nil => exact List.cons_lt_cons_iff.mpr (.inl before)
  | cons a cs ih => exact List.cons_lt_cons_iff.mpr (.inr ⟨rfl, ih⟩)

/-- Letters of a smaller number are fewer, or as many and earlier in a dictionary. -/
theorem bijectiveLetters_lt {m n : Nat} (less : m < n) :
    (bijectiveLetters m).length < (bijectiveLetters n).length ∨
      (bijectiveLetters m).length = (bijectiveLetters n).length ∧ bijectiveLetters m < bijectiveLetters n := by
  induction m using Nat.strong_induction_on generalizing n with
  | _ m ih =>
      obtain ⟨p, e, digit', rfl⟩ := exists_last_digit (Nat.ne_zero_of_lt less)
      by_cases zero : m = 0
      · rw [zero, bijectiveLetters, if_pos rfl]
        exact .inl (length_bijectiveLetters_pos (Nat.succ_ne_zero _))
      · obtain ⟨q, d, digit, rfl⟩ := exists_last_digit zero
        rw [bijectiveLetters_digit q digit, bijectiveLetters_digit p digit']
        simp only [List.length_append, List.length_singleton, Nat.add_lt_add_iff_right, Nat.add_right_cancel_iff]
        obtain earlier | rfl : q < p ∨ q = p := by omega
        · obtain shorter | ⟨same, before⟩ := ih q (by omega) earlier
          · exact .inl shorter
          · exact .inr ⟨same, lt_concat_of_lt _ _ same before⟩
        · have letters : ∀ e < 26, ∀ d < e, letterOf d < letterOf e := by decide
          exact .inr ⟨rfl, concat_lt_concat _ (letters e digit' d (by omega))⟩

/-! ## Columns -/

theorem toList_columnLetters (column : Nat) : (columnLetters column).toList = bijectiveLetters (column + 1) :=
  String.toList_ofList

theorem columnNumber_columnLetters (column : Nat) : columnNumber (columnLetters column).toList = column + 1 := by
  rw [toList_columnLetters, columnNumber_bijectiveLetters]

theorem columnLetters_injective : Function.Injective columnLetters := by
  intro c d same
  have numbers := columnNumber_columnLetters c
  rw [same, columnNumber_columnLetters] at numbers
  exact Nat.succ.inj numbers.symm

theorem isColumnText_columnLetters (column : Nat) : IsColumnText (columnLetters column) := by
  constructor
  · intro empty
    have number := columnNumber_columnLetters column
    rw [empty] at number
    cases number
  · rw [toList_columnLetters]
    exact mem_bijectiveLetters (column + 1)

/-- A text of capital letters is that of the column before the number that it denotes. -/
theorem IsColumnText.eq_columnLetters {s : String} (isText : IsColumnText s) :
    ∃ column, columnNumber s.toList = column + 1 ∧ columnLetters column = s := by
  have read := bijectiveLetters_columnNumber isText.2
  cases number : columnNumber s.toList with
  | zero =>
      rw [number, bijectiveLetters, if_pos rfl] at read
      exact absurd (String.toList_eq_nil_iff.mp read.symm) isText.1
  | succ column =>
      refine ⟨column, rfl, ?_⟩
      rw [columnLetters, ← number, read, String.ofList_toList]

/-- Below a bound there is one column of a text, or none. -/
theorem existsUnique_column_iff (bound : Nat) (s : String) :
    (∃! column, column < bound ∧ columnLetters column = s) ↔ IsColumnText s ∧ columnNumber s.toList ≤ bound := by
  constructor
  · rintro ⟨column, ⟨below, rfl⟩, -⟩
    rw [columnNumber_columnLetters]
    exact ⟨isColumnText_columnLetters column, below⟩
  · rintro ⟨isText, below⟩
    obtain ⟨column, number, rfl⟩ := isText.eq_columnLetters
    rw [number] at below
    exact ⟨column, ⟨below, rfl⟩, fun other isOther => columnLetters_injective isOther.2⟩

theorem comesBefore_of_lt {c d : Nat} (less : c < d) : ComesBefore (columnLetters c) (columnLetters d) := by
  have letters := bijectiveLetters_lt (Nat.succ_lt_succ less)
  rwa [← toList_columnLetters, ← toList_columnLetters, String.length_toList, String.length_toList, ← String.lt_iff]
    at letters

/-- Columns are in the order of their letters, the shorter ones first. -/
theorem lt_iff_comesBefore (c d : Nat) : c < d ↔ ComesBefore (columnLetters c) (columnLetters d) := by
  have increasing : StrictMono fun column => toLex ((columnLetters column).length, columnLetters column) :=
    fun _ _ less => Prod.Lex.toLex_lt_toLex.mpr (comesBefore_of_lt less)
  rw [← increasing.lt_iff_lt, Prod.Lex.toLex_lt_toLex]
  rfl

example : [25, 26, 701, 702].map columnLetters = ["Z", "AA", "ZZ", "AAA"] := by decide +kernel

/-! ## Columns from a table -/

/-- What each element leads to in any state, a list of them leads to one after another. -/
theorem mapM_fst {σ α β γ : Type} {f : α → StateM σ β} {view : β → γ} {g : α → γ}
    (each : ∀ a s, view (f a s).1 = g a) (as : List α) (s : σ) : ((as.mapM f).run s).1.map view = as.map g := by
  induction as generalizing s with
  | nil => rfl
  | cons a as ih =>
      rw [List.mapM_cons, List.map_cons, ← each a s, ← ih (f a s).2]
      rfl

/-- The letters of a column are capital letters that denote the number of the column in bijective base 26, so no two
    columns have the same. A text is that of a column below a bound, and then of one only, exactly if it consists of
    capital letters and denotes no more than the bound. Columns are in the order of their letters, the shorter ones first.
    A table gives the letters of all columns, whatever it was asked before, and rows that are written with
    it, however many, are the same text as without it. -/
theorem columns_known_by_letters :
    (∀ column, IsColumnText (columnLetters column) ∧ columnNumber (columnLetters column).toList = column + 1) ∧
    Function.Injective columnLetters ∧
    (∀ bound s, (∃! column, column < bound ∧ columnLetters column = s) ↔
      IsColumnText s ∧ columnNumber s.toList ≤ bound) ∧
    (∀ c d, c < d ↔ ComesBefore (columnLetters c) (columnLetters d)) ∧
    (∀ (t : LetterTable) (columns : List Nat), ((columns.mapM LetterTable.ask).run t).1 = columns.map columnLetters) ∧
    ∀ (t : LetterTable) (rows : List Row), ((rows.mapM Row.tokensBy).run t).1.map render = rows.map Row.toText := by
  refine ⟨fun column => ⟨isColumnText_columnLetters column, columnNumber_columnLetters column⟩, columnLetters_injective,
    existsUnique_column_iff, lt_iff_comesBefore, fun t columns => ?_, fun t rows => ?_⟩
  · have each column t : id (LetterTable.ask column t).1 = columnLetters column := LetterTable.ask_fst t column
    rw [← mapM_fst each columns t, List.map_id]
  · exact mapM_fst (fun r t => r.render_tokensBy t) rows t

end SheetExport
