import SheetExport.Export.Run
import SheetExport.Proofs.Xml.RoundTrip

/-! # Formulas in what a reader sees

A text is disarmed before it is written, a reader looks at what it has read back. The two see the same first
character, blanks apart, unless the text is cut right there: then the character that the completed code denotes
comes first, and it may begin a formula that nobody disarmed. `hidesFormula` says which texts these are.
-/

namespace SheetExport

open Xml

/-- After its leading blanks the text has a cut, and the completed code denotes a character that begins formulas. -/
def hidesFormula (s : List Char) : Bool :=
  let rest := s.dropWhile Text.isBlank
  looksCut rest && isFormulaLead (Char.ofNat (Text.ofHexDigits ((rest.drop 2).take 4)))

variable {c : Char} {s : List Char}

theorem startsFormula_blank (blank : Text.isBlank c = true) (s : List Char) :
    startsFormula (c :: s) = startsFormula s := by
  simp only [startsFormula, List.dropWhile_cons, blank, if_true]

theorem startsFormula_cons (solid : Text.isBlank c = false) (s : List Char) :
    startsFormula (c :: s) = isFormulaLead c := by
  simp [startsFormula, solid]

theorem hidesFormula_blank (blank : Text.isBlank c = true) (s : List Char) :
    hidesFormula (c :: s) = hidesFormula s := by
  simp only [hidesFormula, List.dropWhile_cons, blank, if_true]

theorem not_lead_of_blank (blank : Text.isBlank c = true) : isFormulaLead c = false := by
  by_contra lead
  simp only [isFormulaLead, Bool.not_eq_false, Bool.or_eq_true, beq_iff_eq] at lead
  obtain ((rfl | rfl) | rfl) | rfl := lead <;> simp [Text.isBlank] at blank

theorem looksCut_plain (plain : c ≠ '_') (s : List Char) : looksCut (c :: s) = false := by
  rw [looksCut.eq_def]
  split
  · next same => exact absurd (List.cons.inj same).1 plain
  · rfl

theorem blank_ne_underscore (blank : Text.isBlank c = true) : c ≠ '_' := by
  rintro rfl
  simp [Text.isBlank] at blank

/-- Where a text is cut, the reader sees the character that the completed code denotes, and then the `x` of the
    code that was to be read. -/
theorem read_cut (cut : looksCut s = true) :
    ∃ r, decodeCoded (mark s) = Char.ofNat (Text.ofHexDigits ((s.drop 2).take 4)) :: 'x' :: r := by
  obtain ⟨a, b, c, d, e, v, rfl, tail, forbidden, marked⟩ := mark_cut cut
  obtain ⟨w, x, y, z, shape, -⟩ := coded_shape (.inl forbidden)
  refine ⟨decodeCoded (w :: x :: y :: z :: '_' :: mark v), ?_⟩
  rw [marked, shape]
  simp only [List.cons_append, List.nil_append, decodeCoded, tail, if_true]
  rw [decodeCoded_cons (looksCoded_plain (by decide) _)]
  rfl

/-- Blanks of a text are read as they are, so the first character after them decides. -/
theorem startsFormula_read (safe : startsFormula s = false) :
    startsFormula (decodeCoded (mark s)) = hidesFormula s := by
  induction s with
  | nil => rfl
  | cons c s ih =>
      cases blank : Text.isBlank c with
      | true =>
          rw [startsFormula_blank blank] at safe
          rw [decodeCoded_mark_cons (looksCut_plain (blank_ne_underscore blank) s), startsFormula_blank blank,
            hidesFormula_blank blank, ih safe]
      | false =>
          have here : (c :: s).dropWhile Text.isBlank = c :: s := by simp [blank]
          cases cut : looksCut (c :: s) with
          | false =>
              rw [decodeCoded_mark_cons cut, startsFormula_cons blank, ← startsFormula_cons blank s, safe, hidesFormula,
                here, cut]
              rfl
          | true =>
              obtain ⟨r, read⟩ := read_cut cut
              rw [read, hidesFormula, here, cut, Bool.true_and]
              cases first : Text.isBlank (Char.ofNat (Text.ofHexDigits (((c :: s).drop 2).take 4))) with
              | true =>
                  rw [startsFormula_blank first, startsFormula_cons (by decide), not_lead_of_blank first]
                  decide
              | false => exact startsFormula_cons first _

theorem hidesFormula_of_startsFormula (starts : startsFormula s = true) : hidesFormula s = false := by
  induction s with
  | nil => rfl
  | cons c s ih =>
      cases blank : Text.isBlank c with
      | true =>
          rw [startsFormula_blank blank] at starts
          rw [hidesFormula_blank blank, ih starts]
      | false =>
          rw [startsFormula_cons blank] at starts
          have plain : c ≠ '_' := by
            rintro rfl
            simp [isFormulaLead] at starts
          simp [hidesFormula, blank, looksCut_plain plain]

/-- A disarmed text is seen as a formula only if it hides one. -/
theorem startsFormula_read_disarmed (s : String) :
    startsFormula (decode (escape (disarmFormula s)).toList) = hidesFormula s.toList := by
  rw [escape, String.toList_ofList, decode, decodeEntities_encode, disarmFormula]
  by_cases starts : startsFormula s.toList = true
  · have apostrophe : ("'" ++ s).toList = '\'' :: s.toList := by simp
    have solid : Text.isBlank '\'' = false := by decide
    rw [if_pos starts, apostrophe, hidesFormula_of_startsFormula starts,
      startsFormula_read (by rw [startsFormula_cons solid]; decide), hidesFormula,
      show ('\'' :: s.toList).dropWhile Text.isBlank = '\'' :: s.toList by simp [solid],
      looksCut_plain (by decide), Bool.false_and]
  · rw [if_neg starts, startsFormula_read (by simpa using starts)]

/-- With formulas escaped, a reader sees one in the cell of a header or of a text exactly if the text hides it: if,
    after its leading blanks, it begins with `_xHHHH` for one of the characters that begin formulas and a forbidden
    character, whose code supplies the last underscore. -/
theorem formula_seen_iff {config : Config} (escaping : config.escapeFormulas = true) (s : String) :
    Run.safeValue config (.text s) = .text (Run.safeText config s) ∧
      (startsFormula (decode (escape (Run.safeText config s)).toList) = true ↔ hidesFormula s.toList = true) := by
  have disarmed : Run.safeText config s = disarmFormula s := by simp [Run.safeText, escaping]
  refine ⟨rfl, ?_⟩
  rw [disarmed, startsFormula_read_disarmed]

/-- A text with a formula behind a tab is disarmed, and so it is seen as none. -/
theorem formula_seen_iff_tab : Config.default.escapeFormulas = true ∧ hidesFormula "\t=1+1".toList = false ∧
    startsFormula (decode (escape (Run.safeText Config.default "\t=1+1")).toList) = false := by
  have hidden : hidesFormula "\t=1+1".toList = false := by decide
  have seen := (@formula_seen_iff Config.default rfl "\t=1+1").2
  rw [hidden] at seen
  exact ⟨rfl, hidden, by simpa using seen⟩

/-- The code of the second character completes that of `=`. -/
theorem hidden_formula_seen :
    startsFormula (decode (escape (Run.safeText Config.default "_x003D\x01")).toList) = true := by
  decide

end SheetExport
