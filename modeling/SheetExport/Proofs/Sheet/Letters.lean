import SheetExport.Proofs.Cell.Reference
import SheetExport.Proofs.Xml.RoundTrip
import SheetExport.Sheet.Letters

/-! # Rows written with letters from a table

A table gives the letters of a column, whichever columns it was asked for before. So a row that takes its letters from
one is the same text as a row for whose cells all letters are made anew.
-/

namespace SheetExport

open Xml

/-! ## References in a document -/

/-- Letters, digits and colons stand for themselves. -/
theorem encode_reference {text : List Char}
    (plain : ∀ c ∈ text, ('0' ≤ c ∧ c ≤ ':') ∨ ('A' ≤ c ∧ c ≤ 'Z')) : encode text = text := by
  induction text with
  | nil => rfl
  | cons c text ih =>
      have first := plain c List.mem_cons_self
      have code : (0x30 ≤ c.toNat ∧ c.toNat ≤ 0x3A) ∨ (0x41 ≤ c.toNat ∧ c.toNat ≤ 0x5A) := by
        simpa [Char.le_def, UInt32.le_iff_toNat_le] using first
      have other (d : Char) (outside : ¬ ((0x30 ≤ d.toNat ∧ d.toNat ≤ 0x3A) ∨ (0x41 ≤ d.toNat ∧ d.toNat ≤ 0x5A))) :
          c ≠ d := by
        rintro rfl
        exact outside code
      have allowed : isForbidden c = false := by
        simp only [isForbidden, Bool.or_eq_false_iff, Bool.and_eq_false_iff, decide_eq_false_iff_not]
        omega
      have itself : encodeChar c = [c] := by
        simp only [encodeChar, other '&' (by decide), other '<' (by decide), other '>' (by decide),
          other '"' (by decide), allowed, Bool.false_eq_true, if_false]
      rw [encode, looksCoded_plain (other '_' (by decide)), if_neg Bool.false_ne_true, itself,
        ih fun d later => plain d (List.mem_cons_of_mem c later), List.singleton_append]

theorem plain_cellReference (row column : Nat) :
    ∀ c ∈ (cellReference row column).toList, ('0' ≤ c ∧ c ≤ ':') ∨ ('A' ≤ c ∧ c ≤ 'Z') := by
  intro c inside
  rw [toList_cellReference] at inside
  cases List.mem_append.mp inside with
  | inl letter => exact .inr (mem_bijectiveLetters _ c letter)
  | inr digit =>
      have isDigit := List.all_eq_true.mp (Text.isDigit_toDigits (row + 1)) c digit
      simp only [Text.isDigit, Bool.and_eq_true, decide_eq_true_eq] at isDigit
      exact .inl ⟨isDigit.1, Nat.le_trans isDigit.2 (by decide)⟩

theorem escape_cellReference (row column : Nat) : escape (cellReference row column) = cellReference row column := by
  rw [escape, encode_reference (plain_cellReference row column), String.ofList_toList]

/-! ## Tables -/

theorem Xml.render_append (tokens more : List Token) : render (tokens ++ more) = render tokens ++ render more := by
  simp [render]

variable (t : LetterTable)

theorem LetterTable.ask_fst (column : Nat) : (ask column t).1 = columnLetters column :=
  (t.reach column).known_eq column (t.lt_size_reach column)

/-- The place of a cell, piece by piece. -/
theorem render_place (row column : Nat) :
    render [.startTag "c", .raw " r=\"", .raw (columnLetters column), .int (row + 1 : Nat), .raw "\""] =
      render [.startTag "c", .attr "r" (cellReference row column)] := by
  simp only [render, List.map_cons, List.map_nil, Token.toText, Token.chunks]
  rw [escape_cellReference, cellReference, show toString ((row + 1 : Nat) : Int) = toString (row + 1) from rfl]
  simp [String.append_assoc]

theorem Cell.render_tokensBy (c : Cell) (row column : Nat) :
    render (c.tokensBy row column t).1 = render (c.tokens row column) := by
  by_cases omitted : c.isOmitted
  · simp only [tokensBy, tokens, omitted]
    rfl
  · simp only [tokensBy, tokens, omitted]
    change render ([.startTag "c", .raw " r=\"", .raw (LetterTable.ask column t).1, .int (row + 1 : Nat), .raw "\""] ++
      _ ++ _) = render ([.startTag "c", .attr "r" (cellReference row column)] ++ _ ++ _)
    rw [LetterTable.ask_fst]
    simp only [render_append, render_place]

theorem Row.render_cellTokensBy (row : Nat) (cells : List Cell) (column : Nat) :
    render (cellTokensBy row cells column t).1 = render (cellTokens row cells column) := by
  induction cells generalizing column t with
  | nil => rfl
  | cons c rest ih =>
      change render ((c.tokensBy row column t).1 ++ (cellTokensBy row rest (column + 1) (c.tokensBy row column t).2).1) =
        render (c.tokens row column ++ cellTokens row rest (column + 1))
      rw [render_append, render_append, c.render_tokensBy, ih]

/-- A row with letters from a table is written as the same text. -/
theorem Row.render_tokensBy (r : Row) : render (r.tokensBy t).1 = r.toText := by
  change render ([.startTag "row", .intAttr "r" (r.index + 1 : Nat), .close] ++ (cellTokensBy r.index r.cells 0 t).1 ++
    [.endTag "row"]) = render r.tokens
  rw [tokens, render_append, render_append, render_append, render_append, render_cellTokensBy]

end SheetExport
