import Mathlib.Tactic.ByContra
import SheetExport.Proofs.Text.Numeral
import SheetExport.Proofs.Xml.RoundTrip
import SheetExport.Xml.Document
import SheetExport.Xml.Token

/-! # Readers of documents

A reader stays where it is over escaped texts and over numbers, in content as in the value of an attribute: they are
spelled in characters that stand for themselves and in references. It gathers names to their ends, and what it has
found before has no part in what it does.
-/

namespace SheetExport.Xml

/-- A character that stands for itself wherever text may stand. -/
def isPlain (c : Char) : Bool := isChar c && c != '<' && c != '>' && c != '&' && c != '"'

namespace Reader

variable {r s t : Reader} {inside : Path} {found : List Path}

theorem run_append (r : Reader) (a b : List Char) : r.run (a ++ b) = (r.run a).bind fun s => s.run b :=
  List.foldlM_append

theorem run_append_of {a : List Char} (ran : r.run a = some s) (b : List Char) : r.run (a ++ b) = s.run b := by
  rw [run_append, ran, Option.bind_some]

theorem run_cons_of {c : Char} (ran : r.step c = some s) (b : List Char) : r.run (c :: b) = s.run b := by
  rw [run, List.foldlM_cons, ran]
  rfl

theorem isChar_of_step {c : Char} (stepped : r.step c = some s) : isChar c = true := by
  by_contra other
  simp [step, other] at stepped

/-! ## What was found before -/

/-- The same reader after one that had found something. -/
def after (r : Reader) (before : List Path) : Reader := { r with found := r.found ++ before }

/-- What was found before has no part in reading. -/
theorem step_after (r : Reader) (before : List Path) (c : Char) :
    (r.after before).step c = (r.step c).map fun s => s.after before := by
  obtain ⟨place, inside, found⟩ := r
  by_cases char : isChar c = true
  · cases place with
    | endTag name =>
        cases inside with
        | nil =>
            simp only [step, after, char, if_true]
            split <;> rfl
        | cons top around =>
            simp only [step, after, char, if_true]
            split
            · split <;> rfl
            · rfl
    | _ =>
        simp only [step, after, char, if_true, inTag, inReference]
        repeat' split
        all_goals rfl
  · simp [step, char]

theorem run_after (r : Reader) (before : List Path) (text : List Char) :
    (r.after before).run text = (r.run text).map fun s => s.after before := by
  induction text generalizing r with
  | nil => rfl
  | cons c text ih =>
      simp only [run, List.foldlM_cons, step_after]
      cases r.step c with
      | none => rfl
      | some s => exact ih s

/-! ## Text -/

/-- The reader is where text may stand: every plain character and every reference leaves it there. -/
structure AtText (r : Reader) : Prop where
  plain : ∀ c, isPlain c = true → r.step c = some r
  amp : r.run "&amp;".toList = some r
  lt : r.run "&lt;".toList = some r
  gt : r.run "&gt;".toList = some r
  quot : r.run "&quot;".toList = some r

theorem atText_content (inside : Path) (found : List Path) : AtText ⟨.content, inside, found⟩ where
  plain c plain := by
    simp only [isPlain, Bool.and_eq_true, bne_iff_ne] at plain
    simp [step, plain]
  amp := rfl
  lt := rfl
  gt := rfl
  quot := rfl

theorem atText_value (tag : Name) (known : List Name) (inside : Path) (found : List Path) :
    AtText ⟨.value tag known, inside, found⟩ where
  plain c plain := by
    simp only [isPlain, Bool.and_eq_true, bne_iff_ne] at plain
    simp [step, plain]
  amp := rfl
  lt := rfl
  gt := rfl
  quot := rfl

theorem AtText.run_plain (h : AtText r) {text : List Char} (plain : ∀ c ∈ text, isPlain c = true) :
    r.run text = some r := by
  induction text with
  | nil => rfl
  | cons c text ih =>
      rw [run_cons_of (h.plain c (plain c List.mem_cons_self))]
      exact ih fun d inside => plain d (List.mem_cons_of_mem c inside)

end Reader

/-- A character that is not forbidden is one that documents may have. -/
theorem isChar_of_allowed {c : Char} (allowed : isForbidden c = false) : isChar c = true := by
  have code : ¬ _ := (isForbidden_iff c).not.mp (by simp [allowed])
  have valid : c.toNat < 0xD800 ∨ (0xDFFF < c.toNat ∧ c.toNat < 0x110000) := c.valid
  simp only [isChar, Bool.or_eq_true, Bool.and_eq_true, decide_eq_true_eq, beq_iff_eq]
  omega

theorem isPlain_of_allowed {c : Char} (allowed : isForbidden c = false) (lt : c ≠ '<') (gt : c ≠ '>') (amp : c ≠ '&')
    (quot : c ≠ '"') : isPlain c = true := by
  simp [isPlain, isChar_of_allowed allowed, lt, gt, amp, quot]

theorem isPlain_hexDigit {c : Char} (h : Text.isHexDigit c = true) : isPlain c = true :=
  isPlain_of_allowed (hexDigit_allowed h) (hexDigit_ne h) (hexDigit_ne h) (hexDigit_ne h) (hexDigit_ne h)

theorem isPlain_coded {c : Char} (h : isForbidden c = true ∨ c = '_') : ∀ d ∈ coded c, isPlain d = true := by
  obtain ⟨w, x, y, z, shape, tail, -⟩ := coded_shape h
  obtain ⟨hw, hx, hy, hz⟩ := isCodeTail_iff.mp tail
  have underscore : isPlain '_' = true := by decide
  have letter : isPlain 'x' = true := by decide
  intro d inside
  rw [shape] at inside
  simp only [List.mem_cons, List.not_mem_nil, or_false] at inside
  obtain rfl | rfl | rfl | rfl | rfl | rfl | rfl := inside
  · exact underscore
  · exact letter
  · exact isPlain_hexDigit hw
  · exact isPlain_hexDigit hx
  · exact isPlain_hexDigit hy
  · exact isPlain_hexDigit hz
  · exact underscore

namespace Reader

variable {r s t : Reader} {inside : Path} {found : List Path}

theorem AtText.run_encodeChar (h : AtText r) (c : Char) : r.run (encodeChar c) = some r := by
  by_cases amp : c = '&'
  · subst amp
    exact h.amp
  by_cases lt : c = '<'
  · subst lt
    exact h.lt
  by_cases gt : c = '>'
  · subst gt
    exact h.gt
  by_cases quot : c = '"'
  · subst quot
    exact h.quot
  simp only [encodeChar, amp, lt, gt, quot, if_false]
  cases forbidden : isForbidden c with
  | true => exact h.run_plain (isPlain_coded (.inl forbidden))
  | false =>
      refine h.run_plain fun d inside => ?_
      obtain rfl : d = c := by simpa using inside
      exact isPlain_of_allowed forbidden lt gt amp quot

/-- No text leads a reader away from where it stands. -/
theorem AtText.run_encode (h : AtText r) (text : List Char) : r.run (encode text) = some r := by
  induction text with
  | nil => rfl
  | cons c text ih =>
      have code : r.run "_x005F_".toList = some r := h.run_plain (List.all_eq_true.mp rfl)
      simp only [encode]
      split
      · rw [run_append_of code, ih]
      · rw [run_append_of (h.run_encodeChar c), ih]

theorem AtText.run_escape (h : AtText r) (text : String) : r.run (escape text).toList = some r := by
  rw [escape, String.toList_ofList, h.run_encode]

end Reader

/-! ## Numbers -/

theorem isPlain_digit {c : Char} (h : Text.isDigit c = true) : isPlain c = true :=
  isPlain_hexDigit (by simp [Text.isHexDigit, h])

theorem isPlain_toDigits (n : Nat) : ∀ c ∈ Nat.toDigits 10 n, isPlain c = true :=
  fun c inside => isPlain_digit (List.all_eq_true.mp (Text.isDigit_toDigits n) c inside)

theorem isPlain_toString_nat (n : Nat) : ∀ c ∈ (toString n).toList, isPlain c = true := by
  have chars : (toString n).toList = Nat.toDigits 10 n := Nat.toList_repr
  rw [chars]
  exact isPlain_toDigits n

theorem isPlain_toString (n : Int) : ∀ c ∈ (toString n).toList, isPlain c = true := by
  cases n with
  | ofNat m => exact isPlain_toString_nat m
  | negSucc m =>
      rw [show toString (Int.negSucc m) = "-" ++ toString (m + 1) from rfl]
      intro c inside
      rw [String.toList_append, List.mem_append] at inside
      obtain sign | digits := inside
      · obtain rfl : c = '-' := by simpa using sign
        decide
      · exact isPlain_toString_nat (m + 1) c digits

theorem isPlain_positional (n scale : Nat) : ∀ c ∈ (positional n scale).toList, isPlain c = true := by
  simp only [positional, String.toList_ofList]
  generalize padded : List.replicate (scale + 1 - (Nat.toDigits 10 n).length) '0' ++ Nat.toDigits 10 n = digits
  have plain : ∀ c ∈ digits, isPlain c = true := by
    intro c inside
    rw [← padded, List.mem_append, List.mem_replicate] at inside
    obtain ⟨_, rfl⟩ | inside := inside
    · decide
    · exact isPlain_toDigits n c inside
  have whole : ∀ c ∈ digits.take (digits.length - scale), isPlain c = true :=
    fun c inside => plain c (List.mem_of_mem_take inside)
  split
  · exact whole
  · intro c inside
    rw [List.mem_append, List.mem_cons, List.mem_reverse] at inside
    obtain inside | rfl | inside := inside
    · exact whole c inside
    · decide
    · exact plain c (List.mem_of_mem_drop (List.mem_reverse.mp (List.dropWhile_sublist _ |>.subset inside)))

theorem isPlain_toText (x : Binary64) : ∀ c ∈ x.toText.toList, isPlain c = true := by
  simp only [Binary64.toText]
  split
  · exact List.all_eq_true.mp rfl
  · intro c inside
    rw [String.toList_append, List.mem_append] at inside
    obtain sign | digits := inside
    · revert c
      split
      · exact List.all_eq_true.mp rfl
      · exact List.all_eq_true.mp rfl
    · revert c
      split
      · exact List.all_eq_true.mp rfl
      · split
        · exact List.all_eq_true.mp rfl
        · exact isPlain_positional _ _

theorem isPlain_numberText (x : Binary64) : ∀ c ∈ (numberText x).toList, isPlain c = true := by
  simp only [numberText]
  split
  · split
    · exact isPlain_toString _
    · exact isPlain_toText x
  · exact isPlain_toText x

/-! ## Names -/

theorem isChar_of_ascii {c : Char} (low : 0x20 ≤ c.toNat) (high : c.toNat < 0x80) : isChar c = true := by
  simp only [isChar, Bool.or_eq_true, Bool.and_eq_true, decide_eq_true_eq, beq_iff_eq]
  omega

theorem isChar_of_namePart {c : Char} (h : isNamePart c = true) : isChar c = true := by
  simp only [isNamePart, isNameStart, Bool.or_eq_true, Bool.and_eq_true, decide_eq_true_eq, beq_iff_eq, Char.le_def,
    UInt32.le_iff_toNat_le] at h
  change (((((65 ≤ c.toNat ∧ c.toNat ≤ 90 ∨ 97 ≤ c.toNat ∧ c.toNat ≤ 122) ∨ c = '_') ∨ c = ':') ∨
    48 ≤ c.toNat ∧ c.toNat ≤ 57) ∨ c = '-') ∨ c = '.' at h
  obtain (((((upper | lower) | rfl) | rfl) | digit) | rfl) | rfl := h
  · exact isChar_of_ascii (by omega) (by omega)
  · exact isChar_of_ascii (by omega) (by omega)
  · decide
  · decide
  · exact isChar_of_ascii (by omega) (by omega)
  · decide
  · decide

theorem namePart_ne {c d : Char} (h : isNamePart c = true) (other : isNamePart d = false := by decide) : c ≠ d := by
  rintro rfl
  simp [h] at other

/-- A name begins with a character that may begin one, and all of its characters may be in one. -/
theorem isName_iff {name : Name} :
    isName name = true ↔ ∃ c rest, name = c :: rest ∧ isNameStart c = true ∧ ∀ d ∈ rest, isNamePart d = true := by
  cases name with
  | nil => simp [isName]
  | cons c rest =>
      rw [isName, Bool.and_eq_true, List.all_eq_true]
      constructor
      · rintro ⟨start, parts⟩
        exact ⟨c, rest, rfl, start, parts⟩
      · rintro ⟨_, _, same, start, parts⟩
        cases same
        exact ⟨start, parts⟩

theorem namePart_of_name {name : Name} (h : isName name = true) : ∀ d ∈ name, isNamePart d = true := by
  obtain ⟨c, rest, rfl, start, parts⟩ := isName_iff.mp h
  intro d inside
  cases List.mem_cons.mp inside with
  | inl first =>
      subst first
      simp [isNamePart, start]
  | inr later => exact parts d later

namespace Reader

variable {inside : Path} {found : List Path}

/-- A reader that gathers a name goes on as long as the name does. -/
theorem run_gathers {p : Name → Place}
    (gathers : ∀ a d, isNamePart d = true → step ⟨p a, inside, found⟩ d = some ⟨p (a ++ [d]), inside, found⟩)
    {name : Name} (parts : ∀ d ∈ name, isNamePart d = true) (a : Name) :
    run ⟨p a, inside, found⟩ name = some ⟨p (a ++ name), inside, found⟩ := by
  induction name generalizing a with
  | nil => rw [List.append_nil]; rfl
  | cons d name ih =>
      rw [run_cons_of (gathers a d (parts d List.mem_cons_self)),
        ih (fun e later => parts e (List.mem_cons_of_mem d later)), List.append_assoc, List.singleton_append]

theorem run_attributeName {tag name : Name} {known : List Name} (named : isName name = true) :
    run ⟨.attribute tag known [], inside, found⟩ name = some ⟨.attribute tag known name, inside, found⟩ := by
  refine run_gathers (p := Place.attribute tag known) (fun a d part => ?_) (namePart_of_name named) []
  simp only [step, isChar_of_namePart part, if_true, if_neg (namePart_ne (d := '=') part)]
  rfl

theorem run_endTagName {name : Name} (named : isName name = true) :
    run ⟨.endTag [], inside, found⟩ name = some ⟨.endTag name, inside, found⟩ := by
  refine run_gathers (p := .endTag) (fun a d part => ?_) (namePart_of_name named) []
  simp only [step, isChar_of_namePart part, if_true, if_neg (namePart_ne (d := '>') part)]
  rfl

theorem run_startTagName {name : Name} (named : isName name = true) :
    run ⟨.tag, inside, found⟩ name = some ⟨.startTag name, inside, found⟩ := by
  obtain ⟨c, rest, rfl, start, parts⟩ := isName_iff.mp named
  have part : isNamePart c = true := by simp [isNamePart, start]
  have first : step ⟨.tag, inside, found⟩ c = some ⟨.startTag [c], inside, found⟩ := by
    simp only [step, isChar_of_namePart part, start, if_true, if_neg (namePart_ne (d := '/') part)]
    rfl
  rw [run_cons_of first]
  refine run_gathers (p := .startTag) (fun a d part => ?_) parts [c]
  simp only [step, isChar_of_namePart part, part, if_true]
  rfl

end Reader

end SheetExport.Xml
