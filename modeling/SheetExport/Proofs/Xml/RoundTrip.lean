import Mathlib.Data.List.Infix
import Mathlib.Tactic.ByContra
import SheetExport.Xml.Escape

/-! # Reading a written text back

Writing looks for coded characters in the text itself, reading looks for them in what was written. The two
agree except at one place: five characters `_xHHHH` before a forbidden character are no coded character, but
the underscore of the code of that character completes them to one. `looksCut` marks this place. A text is
read back in two steps: `mark` is what is left once the entities have been read, and reading the codes of
that goes wrong at the first cut and nowhere before.
-/

namespace SheetExport.Xml

/-- The text begins with all of a coded character but its last underscore, and a forbidden character. -/
def looksCut : List Char → Bool
  | '_' :: 'x' :: a :: b :: c :: d :: e :: _ =>
      Text.isHexDigit a && Text.isHexDigit b && Text.isHexDigit c && Text.isHexDigit d && isForbidden e
  | _ => false

/-- Nowhere in the text does the code of a character complete what comes before it. -/
def Uncut (t : List Char) : Prop := ∀ s, s <:+ t → looksCut s = false

instance : DecidablePred Uncut := fun t =>
  decidable_of_iff (∀ s ∈ t.tails, looksCut s = false) (by simp only [Uncut, List.mem_tails])

/-- What is left of a written character once its entity has been read. -/
def markChar (c : Char) : List Char := if isForbidden c then coded c else [c]

/-- What is left of a written text once its entities have been read. -/
def mark : List Char → List Char
  | [] => []
  | c :: rest => (if looksCoded (c :: rest) then coded '_' else markChar c) ++ mark rest

/-! ## The code of a character -/

theorem isForbidden_iff (c : Char) : isForbidden c = true ↔
    c.toNat < 9 ∨ c.toNat = 11 ∨ c.toNat = 12 ∨ (13 < c.toNat ∧ c.toNat < 32) ∨
      c.toNat = 0xFFFE ∨ c.toNat = 0xFFFF := by
  have tab : c = '\t' ↔ c.toNat = 9 := by rw [← Char.toNat_inj]; rfl
  have lf : c = '\n' ↔ c.toNat = 10 := by rw [← Char.toNat_inj]; rfl
  have cr : c = '\r' ↔ c.toNat = 13 := by rw [← Char.toNat_inj]; rfl
  simp only [isForbidden, Bool.or_eq_true, Bool.and_eq_true, decide_eq_true_eq, ne_eq, tab, lf, cr]
  omega

/-- The characters between `_x` and `_` in the code of a character. -/
def codeDigits (c : Char) : List Char := ((coded c).drop 2).take 4

/-- Reading the digits of the code gives the character again. -/
def codeDenotes (c : Char) : Bool :=
  (codeDigits c).length = 4 && (codeDigits c).all Text.isHexDigit &&
    Char.ofNat (Text.ofHexDigits (codeDigits c)) = c && coded c = '_' :: 'x' :: codeDigits c ++ ['_']

theorem codeDenotes_of_forbidden {c : Char} (h : isForbidden c = true) : codeDenotes c = true := by
  have controls : ∀ n < 32, codeDenotes (Char.ofNat n) = true := by decide
  rw [← Char.ofNat_toNat c]
  rcases (isForbidden_iff c).mp h with h | h | h | h | h | h
  · exact controls _ (by omega)
  · exact controls _ (by omega)
  · exact controls _ (by omega)
  · exact controls _ (by omega)
  · rw [h]; decide
  · rw [h]; decide

/-- Only forbidden characters and underscores are ever coded. -/
theorem coded_shape {c : Char} (h : isForbidden c = true ∨ c = '_') :
    ∃ w x y z, coded c = ['_', 'x', w, x, y, z, '_'] ∧ isCodeTail [w, x, y, z, '_'] = true ∧
      Char.ofNat (Text.ofHexDigits [w, x, y, z]) = c := by
  have denotes : codeDenotes c = true := by
    rcases h with h | rfl
    · exact codeDenotes_of_forbidden h
    · decide
  simp only [codeDenotes, Bool.and_eq_true, decide_eq_true_eq] at denotes
  obtain ⟨⟨⟨four, hex⟩, value⟩, shape⟩ := denotes
  match digits : codeDigits c, four with
  | [w, x, y, z], _ =>
      rw [digits] at hex value shape
      exact ⟨w, x, y, z, shape, by simpa [isCodeTail, Bool.and_assoc] using hex, value⟩

theorem isCodeTail_iff {w x y z : Char} : isCodeTail [w, x, y, z, '_'] = true ↔
    Text.isHexDigit w = true ∧ Text.isHexDigit x = true ∧ Text.isHexDigit y = true ∧
      Text.isHexDigit z = true := by
  simp only [isCodeTail, Bool.and_eq_true, and_assoc]

theorem hexDigit_ne {c d : Char} (h : Text.isHexDigit c = true)
    (other : Text.isHexDigit d = false := by decide) : c ≠ d := by
  rintro rfl
  simp [h] at other

theorem hexDigit_allowed {c : Char} (h : Text.isHexDigit c = true) : isForbidden c = false := by
  by_contra forbidden
  have code := (isForbidden_iff c).mp (by simpa using forbidden)
  simp only [Text.isHexDigit, Text.isDigit, Bool.or_eq_true, Bool.and_eq_true, decide_eq_true_eq,
    Char.le_def, UInt32.le_iff_toNat_le] at h
  change ((48 ≤ c.toNat ∧ c.toNat ≤ 57) ∨ 97 ≤ c.toNat ∧ c.toNat ≤ 102) ∨
    65 ≤ c.toNat ∧ c.toNat ≤ 70 at h
  omega

theorem forbidden_ne {c d : Char} (h : isForbidden c = true)
    (other : isForbidden d = false := by decide) : c ≠ d := by
  rintro rfl
  simp [h] at other

theorem looksCoded_plain {c : Char} (h : c ≠ '_') (r : List Char) : looksCoded (c :: r) = false := by
  rw [looksCoded.eq_def]
  split
  · next same => exact absurd (List.cons.inj same).1 h
  · rfl

/-! ## Reading the entities -/

theorem decodeEntities_cons {c : Char} (h : c ≠ '&') (r : List Char) :
    decodeEntities (c :: r) = c :: decodeEntities r := by
  rw [decodeEntities.eq_def]
  split <;> simp_all

theorem decodeEntities_append {s : List Char} (h : '&' ∉ s) (r : List Char) :
    decodeEntities (s ++ r) = s ++ decodeEntities r := by
  induction s with
  | nil => rfl
  | cons c s ih =>
      obtain ⟨first, rest⟩ := not_or.mp (List.mem_cons.not.mp h)
      rw [List.cons_append, decodeEntities_cons (Ne.symm first), ih rest, List.cons_append]

theorem ampersand_not_mem_coded {c : Char} (h : isForbidden c = true ∨ c = '_') : '&' ∉ coded c := by
  obtain ⟨w, x, y, z, shape, tail, -⟩ := coded_shape h
  obtain ⟨hw, hx, hy, hz⟩ := isCodeTail_iff.mp tail
  have other {c : Char} (hc : Text.isHexDigit c = true) : '&' ≠ c := Ne.symm (hexDigit_ne hc)
  rw [shape]
  simp [other hw, other hx, other hy, other hz]

theorem decodeEntities_encodeChar (c : Char) (r : List Char) :
    decodeEntities (encodeChar c ++ r) = markChar c ++ decodeEntities r := by
  by_cases amp : c = '&'
  · subst amp; rfl
  by_cases lt : c = '<'
  · subst lt; rfl
  by_cases gt : c = '>'
  · subst gt; rfl
  by_cases quot : c = '"'
  · subst quot; rfl
  simp only [encodeChar, amp, lt, gt, quot, if_false, markChar]
  split
  · next forbidden => exact decodeEntities_append (ampersand_not_mem_coded (.inl forbidden)) r
  · exact decodeEntities_append (by simpa using Ne.symm amp) r

theorem decodeEntities_encode (t : List Char) : decodeEntities (encode t) = mark t := by
  induction t with
  | nil => rfl
  | cons c rest ih =>
      simp only [encode, mark]
      split
      · rw [show "_x005F_".toList = coded '_' by decide,
          decodeEntities_append (ampersand_not_mem_coded (.inr rfl)), ih]
      · rw [decodeEntities_encodeChar, ih]

/-! ## Reading the codes -/

theorem decodeCoded_coded {c : Char} (h : isForbidden c = true ∨ c = '_') (r : List Char) :
    decodeCoded (coded c ++ r) = c :: decodeCoded r := by
  obtain ⟨w, x, y, z, shape, tail, value⟩ := coded_shape h
  rw [shape]
  simp only [List.cons_append, List.nil_append, decodeCoded, tail, if_true, value]

theorem decodeCoded_cons {c : Char} {r : List Char} (h : looksCoded (c :: r) = false) :
    decodeCoded (c :: r) = c :: decodeCoded r := by
  rw [decodeCoded.eq_def]
  split
  · next w x y z rest same =>
      obtain ⟨rfl, rfl⟩ := List.cons.inj same
      have tail : isCodeTail [w, x, y, z, '_'] = false := by
        simpa only [looksCoded, isCodeTail] using h
      simp only [tail, Bool.false_eq_true, if_false]
  · next same => obtain ⟨rfl, rfl⟩ := List.cons.inj same; rfl
  · simp at *

theorem decodeCoded_hexDigit {c : Char} (h : Text.isHexDigit c = true) (r : List Char) :
    decodeCoded (c :: r) = c :: decodeCoded r :=
  decodeCoded_cons (looksCoded_plain (hexDigit_ne h) r)

theorem mark_plain {c : Char} {r : List Char} (code : looksCoded (c :: r) = false)
    (allowed : isForbidden c = false) : mark (c :: r) = c :: mark r := by
  simp only [mark, markChar, code, allowed, Bool.false_eq_true, if_false, List.singleton_append]

theorem mark_hexDigit {c : Char} (h : Text.isHexDigit c = true) (r : List Char) :
    mark (c :: r) = c :: mark r :=
  mark_plain (looksCoded_plain (hexDigit_ne h) r) (hexDigit_allowed h)

theorem mark_forbidden {c : Char} (h : isForbidden c = true) (r : List Char) :
    mark (c :: r) = coded c ++ mark r := by
  simp only [mark, markChar, looksCoded_plain (forbidden_ne h), h, Bool.false_eq_true, if_false, if_true]

/-- Only its own character or the underscore of a code comes first in what is left of a character. -/
theorem mark_head {y : Char} {t r : List Char} (h : mark t = y :: r) (plain : y ≠ '_') :
    ∃ rest, t = y :: rest ∧ mark rest = r := by
  cases t with
  | nil => simp [mark] at h
  | cons c rest =>
      simp only [mark, markChar] at h
      split at h
      · exact absurd (List.cons.inj h).1.symm plain
      · split at h
        · exact absurd (List.cons.inj h).1.symm plain
        · obtain ⟨rfl, left⟩ := List.cons.inj h
          exact ⟨rest, rfl, left⟩

theorem looksCoded_underscore {c : Char} {r : List Char} (h : looksCoded (c :: r) = true) : c = '_' := by
  by_contra other
  simp [looksCoded_plain other] at h

theorem mark_underscore {t r : List Char} (h : mark t = '_' :: r) :
    ∃ c rest, t = c :: rest ∧ (c = '_' ∨ isForbidden c = true) := by
  cases t with
  | nil => simp [mark] at h
  | cons c rest =>
      refine ⟨c, rest, rfl, ?_⟩
      simp only [mark, markChar] at h
      split at h
      · exact .inl (looksCoded_underscore ‹_›)
      · split at h
        · exact .inr ‹_›
        · exact .inl (List.cons.inj h).1

/-- An underscore that is written as itself is taken for the beginning of a code only at a cut. -/
theorem looksCoded_mark {rest : List Char} (h : looksCoded ('_' :: mark rest) = true) :
    looksCoded ('_' :: rest) = true ∨ looksCut ('_' :: rest) = true := by
  obtain ⟨r, marked, tail⟩ : ∃ r, mark rest = 'x' :: r ∧ isCodeTail r = true := by
    rw [looksCoded.eq_def] at h
    split at h
    · next same => exact ⟨_, (List.cons.inj same).2, h⟩
    · simp at h
  rw [isCodeTail.eq_def] at tail
  split at tail
  · next a b c d r =>
      simp only [Bool.and_eq_true] at tail
      obtain ⟨⟨⟨ha, hb⟩, hc⟩, hd⟩ := tail
      -- None of the six characters before the last underscore can come from a code.
      obtain ⟨_, rfl, first⟩ := mark_head marked (by decide)
      obtain ⟨_, rfl, second⟩ := mark_head first (hexDigit_ne ha)
      obtain ⟨_, rfl, third⟩ := mark_head second (hexDigit_ne hb)
      obtain ⟨_, rfl, fourth⟩ := mark_head third (hexDigit_ne hc)
      obtain ⟨_, rfl, last⟩ := mark_head fourth (hexDigit_ne hd)
      obtain ⟨e, _, rfl, rfl | forbidden⟩ := mark_underscore last
      · left; simp only [looksCoded, isCodeTail, ha, hb, hc, hd, Bool.and_self]
      · right; simp only [looksCut, ha, hb, hc, hd, forbidden, Bool.and_self]
  · simp at tail

theorem decodeCoded_mark_cons {c : Char} {rest : List Char} (h : looksCut (c :: rest) = false) :
    decodeCoded (mark (c :: rest)) = c :: decodeCoded (mark rest) := by
  simp only [mark, markChar]
  split
  · next code =>
      obtain rfl := looksCoded_underscore code
      exact decodeCoded_coded (.inr rfl) _
  · next code =>
      split
      · next forbidden => exact decodeCoded_coded (.inl forbidden) _
      · apply decodeCoded_cons
        by_cases underscore : c = '_'
        · subst underscore
          by_contra marked
          rcases looksCoded_mark (by simpa using marked) with again | cut
          · exact code again
          · simp [h] at cut
        · exact looksCoded_plain underscore _

theorem mark_cut {t : List Char} (h : looksCut t = true) : ∃ a b c d e v,
    t = '_' :: 'x' :: a :: b :: c :: d :: e :: v ∧ isCodeTail [a, b, c, d, '_'] = true ∧
      isForbidden e = true ∧ mark t = '_' :: 'x' :: a :: b :: c :: d :: (coded e ++ mark v) := by
  rw [looksCut.eq_def] at h
  split at h
  · next a b c d e v =>
      simp only [Bool.and_eq_true] at h
      obtain ⟨⟨⟨⟨ha, hb⟩, hc⟩, hd⟩, forbidden⟩ := h
      refine ⟨a, b, c, d, e, v, rfl, isCodeTail_iff.mpr ⟨ha, hb, hc, hd⟩, forbidden, ?_⟩
      have code : looksCoded ('_' :: 'x' :: a :: b :: c :: d :: e :: v) = false := by
        simp only [looksCoded]
        rw [isCodeTail.eq_def]
        split
        · next same => simp_all [forbidden_ne forbidden (d := '_')]
        · rfl
      rw [mark_plain code (by decide), mark_plain (looksCoded_plain (by decide) _) (by decide),
        mark_hexDigit ha, mark_hexDigit hb, mark_hexDigit hc, mark_hexDigit hd, mark_forbidden forbidden]
  · simp at h

/-- At a cut the completed code takes the place of six characters. If it denotes an underscore, the digits
    of the other code follow instead of its own. -/
theorem decodeCoded_mark_cut {t : List Char} (h : looksCut t = true) : decodeCoded (mark t) ≠ t := by
  obtain ⟨a, b, c, d, e, v, rfl, tail, forbidden, marked⟩ := mark_cut h
  obtain ⟨w, x, y, z, shape, digits, value⟩ := coded_shape (.inl forbidden)
  obtain ⟨hw, hx, hy, hz⟩ := isCodeTail_iff.mp digits
  intro same
  rw [marked, shape] at same
  simp only [List.cons_append, List.nil_append, decodeCoded, tail, if_true] at same
  rw [decodeCoded_cons (looksCoded_plain (by decide) _), decodeCoded_hexDigit hw, decodeCoded_hexDigit hx,
    decodeCoded_hexDigit hy, decodeCoded_hexDigit hz] at same
  simp only [List.cons.injEq, true_and] at same
  obtain ⟨underscore, rfl, rfl, rfl, rfl, -⟩ := same
  exact absurd (value.symm.trans underscore) (forbidden_ne forbidden)

theorem decodeCoded_mark_iff (t : List Char) : decodeCoded (mark t) = t ↔ Uncut t := by
  induction t with
  | nil =>
      simp only [Uncut, List.suffix_nil, forall_eq]
      exact ⟨fun _ => rfl, fun _ => rfl⟩
  | cons c rest ih =>
      have suffixes : Uncut (c :: rest) ↔ looksCut (c :: rest) = false ∧ Uncut rest := by
        simp only [Uncut, List.suffix_cons_iff, forall_eq_or_imp]
      rw [suffixes]
      cases cut : looksCut (c :: rest) with
      | true => simpa using decodeCoded_mark_cut cut
      | false => rw [decodeCoded_mark_cons cut, ← ih]; simp

theorem decode_encode_iff (t : List Char) : decode (encode t) = t ↔ Uncut t := by
  rw [decode, decodeEntities_encode, decodeCoded_mark_iff]

theorem decode_escape_iff (t : String) : decode (escape t).toList = t.toList ↔ Uncut t.toList := by
  rw [escape, String.toList_ofList, decode_encode_iff]

/-- A text reads back as itself exactly if no code of a forbidden character completes what looks like the
    beginning of a coded character. Such texts have written forms of their own. -/
theorem read_back_iff_uncut (t : String) : (decode (escape t).toList = t.toList ↔ Uncut t.toList) ∧
    (Uncut t.toList → ∀ u : String, Uncut u.toList → escape u = escape t → u = t) := by
  refine ⟨decode_escape_iff t, fun ht u hu same => ?_⟩
  apply String.toList_inj.mp
  rw [← (decode_escape_iff u).mpr hu, ← (decode_escape_iff t).mpr ht, same]

/-- The underscore after `_x0041` belongs to the code of the character that follows, and two texts that
    differ only in which of two codes is cut have one written form. -/
theorem cut_text_misread :
    decode (escape "_x0041\x01").toList ≠ "_x0041\x01".toList ∧
      escape "_x0001\x02" = escape "\x01x0002_" := by
  decide

end SheetExport.Xml
