import Mathlib.Data.List.Basic
import SheetExport.Proofs.Xml.Document

/-! # The elements in tokens

A reader that comes upon the text of a token goes where `Reader.take` says, whatever texts and numbers the token
holds. So the elements of a document can be told from its tokens: tokens that `Yields` elements are put one after
another and inside of an element, and no text in them has a part in it.
-/

namespace SheetExport.Xml

/-- The name of the start tag that a reader is in, and those of its attributes so far. -/
def Place.inStartTag : Place → Option (Name × List Name)
  | .startTag name => some (name, [])
  | .quoted name known => some (name, known)
  | _ => none

namespace Reader

/-- A whole attribute, whatever its value. -/
def takeAttribute (r : Reader) (name : Name) : Option Reader := do
  let (tag, known) ← r.place.inStartTag
  if isName name && !known.contains name then r.goTo (.quoted tag (name :: known)) else none

/-- The reader after the text of a token, for a token that may stand where the reader is. -/
def take (r : Reader) : Token → Option Reader
  | .raw s => r.run s.toList
  | .int _ | .float _ | .text _ => if r.place = .content then some r else none
  | .startTag name =>
      if (r.place = .prolog ∨ r.place = .content) ∧ isName name.toList then r.goTo (.startTag name.toList) else none
  | .endTag name =>
      match r.inside with
      | top :: around =>
          if r.place = .content ∧ top = name.toList ∧ isName top then some (leave around r.found) else none
      | [] => none
  | .emptyTag name =>
      if (r.place = .prolog ∨ r.place = .content) ∧ isName name.toList then
        some (leave r.inside ((name.toList :: r.inside) :: r.found))
      else none
  | .attr name _ | .intAttr name _ => r.takeAttribute name.toList
  | .close => do
      let (tag, _) ← r.place.inStartTag
      some (r.enter tag)
  | .closeEmpty => do
      let (tag, _) ← r.place.inStartTag
      some (leave r.inside ((tag :: r.inside) :: r.found))

def takeAll (r : Reader) (tokens : List Token) : Option Reader := tokens.foldlM take r

variable {r s t : Reader} {inside : Path} {found : List Path}

theorem takeAttribute_quoted {tag name : Name} {known : List Name} (named : isName name = true)
    (fresh : known.contains name = false) :
    takeAttribute ⟨.quoted tag known, inside, found⟩ name = some ⟨.quoted tag (name :: known), inside, found⟩ := by
  change (if (isName name && !known.contains name) = true then _ else none) = _
  rw [named, fresh]
  rfl

theorem run_text {text : String} (plain : ∀ c ∈ text.toList, isPlain c = true) (content : r.place = .content) :
    r.run text.toList = some r := by
  obtain ⟨place, inside, found⟩ := r
  obtain rfl : place = .content := content
  exact (atText_content inside found).run_plain plain

theorem run_startTag {name : String} (opens : r.place = .prolog ∨ r.place = .content)
    (named : isName name.toList = true) :
    r.run ("<" ++ name).toList = some { r with place := .startTag name.toList } := by
  obtain ⟨place, inside, found⟩ := r
  have tag : step ⟨place, inside, found⟩ '<' = some ⟨.tag, inside, found⟩ := by
    obtain rfl | rfl : place = .prolog ∨ place = .content := opens
    · rfl
    · rfl
  rw [String.toList_append]
  exact (run_cons_of tag _).trans (run_startTagName named)

/-- In a start tag, the next character is that of an attribute or of the end of the tag. -/
theorem step_inStartTag {tag : Name} {known : List Name} {c : Char} (opened : r.place.inStartTag = some (tag, known))
    (other : isNamePart c = false) (char : isChar c = true) : r.step c = r.inTag tag known c := by
  obtain ⟨place, inside, found⟩ := r
  cases place with
  | startTag name =>
      obtain ⟨rfl, rfl⟩ : name = tag ∧ [] = known := by simpa [Place.inStartTag] using opened
      simp [step, char, other]
  | quoted name names =>
      obtain ⟨rfl, rfl⟩ : name = tag ∧ names = known := by simpa [Place.inStartTag] using opened
      simp [step, char]
  | _ => cases opened

theorem run_attribute {tag name : Name} {known : List Name} {value : List Char}
    (opened : r.place.inStartTag = some (tag, known)) (named : isName name = true) (fresh : known.contains name = false)
    (keeps : ∀ {r}, AtText r → r.run value = some r) :
    r.run (' ' :: name ++ ('=' :: '"' :: value ++ ['"'])) = some { r with place := .quoted tag (name :: known) } := by
  obtain ⟨place, inside, found⟩ := r
  have blank : step ⟨place, inside, found⟩ ' ' = some ⟨.attribute tag known [], inside, found⟩ :=
    step_inStartTag opened rfl rfl
  have equals : step ⟨.attribute tag known name, inside, found⟩ '=' =
      some ⟨.quote tag (name :: known), inside, found⟩ := by
    have char : isChar '=' = true := by decide
    simp only [step, char, if_true, named, fresh, Bool.not_false, Bool.and_self]
    rfl
  have quote : step ⟨.quote tag (name :: known), inside, found⟩ '"' =
      some ⟨.value tag (name :: known), inside, found⟩ := rfl
  have quoted : run ⟨.value tag (name :: known), inside, found⟩ ['"'] =
      some ⟨.quoted tag (name :: known), inside, found⟩ := rfl
  rw [List.cons_append, run_cons_of blank, run_append_of (run_attributeName named), List.cons_append,
    run_cons_of equals, List.cons_append, run_cons_of quote,
    run_append_of (keeps (atText_value tag (name :: known) inside found)), quoted]

theorem run_closeEmpty {tag : Name} {known : List Name} (opened : r.place.inStartTag = some (tag, known)) :
    r.run "/>".toList = some (leave r.inside ((tag :: r.inside) :: r.found)) := by
  have slash : r.step '/' = some { r with place := .emptyTag tag } := step_inStartTag opened rfl rfl
  rw [show "/>".toList = ['/', '>'] from rfl, run_cons_of slash]
  rfl

theorem run_endTag {name : String} {around : Path} (named : isName name.toList = true) :
    run ⟨.content, name.toList :: around, found⟩ ("</" ++ name ++ ">").toList = some (leave around found) := by
  have opens : run ⟨.content, name.toList :: around, found⟩ "</".toList =
      some ⟨.endTag [], name.toList :: around, found⟩ := rfl
  have closes : run ⟨.endTag name.toList, name.toList :: around, found⟩ ">".toList = some (leave around found) := by
    rw [show ">".toList = ['>'] from rfl, run, List.foldlM_cons]
    have char : isChar '>' = true := by decide
    simp [step, char]
  rw [String.toList_append, String.toList_append, List.append_assoc, run_append_of opens,
    run_append_of (run_endTagName named), closes]

theorem toText_single {token : Token} {text : String} (single : token.chunks = [text]) : token.toText = text := by
  simp [Token.toText, single]

theorem run_takeAttribute {name value : String} (taken : r.takeAttribute name.toList = some s)
    (keeps : ∀ {r}, AtText r → r.run value.toList = some r) :
    r.run (String.join [" " ++ name ++ "=\"" ++ value, "\""]).toList = some s := by
  have shape : (String.join [" " ++ name ++ "=\"" ++ value, "\""]).toList =
      ' ' :: name.toList ++ ('=' :: '"' :: value.toList ++ ['"']) := by
    simp [String.toList_append]
  rw [takeAttribute] at taken
  obtain ⟨⟨tag, known⟩, opened, taken⟩ := Option.bind_eq_some_iff.mp taken
  obtain ⟨named, taken⟩ := Option.ite_none_right_eq_some.mp taken
  rw [Bool.and_eq_true, Bool.not_eq_true'] at named
  rw [shape, run_attribute opened named.1 named.2 keeps, ← taken]
  rfl

/-- A reader that comes upon a token goes where `take` says, whatever texts and numbers are in it. -/
theorem run_toText {token : Token} (taken : r.take token = some s) : r.run token.toText.toList = some s := by
  cases token with
  | raw text => rwa [toText_single rfl]
  | int n =>
      obtain ⟨content, rfl⟩ : r.place = .content ∧ r = s := by simpa [take] using taken
      rw [toText_single rfl, run_text (isPlain_toString n) content]
  | float x =>
      obtain ⟨content, rfl⟩ : r.place = .content ∧ r = s := by simpa [take] using taken
      rw [toText_single rfl, run_text (isPlain_numberText x) content]
  | text text =>
      obtain ⟨content, rfl⟩ : r.place = .content ∧ r = s := by simpa [take] using taken
      obtain ⟨place, inside, found⟩ := r
      obtain rfl : place = .content := content
      rw [toText_single rfl, (atText_content inside found).run_escape]
  | startTag name =>
      obtain ⟨⟨opens, named⟩, taken⟩ : (_ ∧ _) ∧ _ := by simpa only [take, Option.ite_none_right_eq_some] using taken
      rw [toText_single rfl, run_startTag opens named, ← taken]
      rfl
  | endTag name =>
      obtain ⟨place, inside, found⟩ := r
      cases inside with
      | nil => cases taken
      | cons top around =>
          obtain ⟨⟨content, rfl, named⟩, taken⟩ := Option.ite_none_right_eq_some.mp taken
          obtain rfl : place = .content := content
          rw [toText_single rfl, run_endTag named, ← taken]
  | emptyTag name =>
      obtain ⟨⟨opens, named⟩, taken⟩ := Option.ite_none_right_eq_some.mp taken
      have opened : Place.inStartTag (.startTag name.toList) = some (name.toList, []) := rfl
      rw [toText_single rfl, String.toList_append, run_append_of (run_startTag opens named),
        run_closeEmpty (r := { r with place := .startTag name.toList }) opened, ← taken]
  | attr name value => exact run_takeAttribute taken fun atText => atText.run_escape value
  | intAttr name value => exact run_takeAttribute taken fun atText => atText.run_plain (isPlain_toString value)
  | close =>
      obtain ⟨⟨tag, known⟩, opened, taken⟩ := Option.bind_eq_some_iff.mp taken
      have closes : r.step '>' = some (r.enter tag) := step_inStartTag opened rfl rfl
      rw [toText_single rfl, show ">".toList = ['>'] from rfl, run_cons_of closes, ← taken]
      rfl
  | closeEmpty =>
      obtain ⟨⟨tag, known⟩, opened, taken⟩ := Option.bind_eq_some_iff.mp taken
      rw [toText_single rfl, run_closeEmpty opened, ← taken]

theorem render_cons (token : Token) (tokens : List Token) :
    render (token :: tokens) = token.toText ++ render tokens := by
  simp [render]

theorem run_render {tokens : List Token} (taken : r.takeAll tokens = some s) :
    r.run (render tokens).toList = some s := by
  induction tokens generalizing r with
  | nil => exact taken
  | cons token tokens ih =>
      obtain ⟨t, first, rest⟩ := Option.bind_eq_some_iff.mp taken
      rw [render_cons, String.toList_append, run_append_of (run_toText first), ih rest]

theorem takeAll_cons_of {token : Token} (taken : r.take token = some s) (more : List Token) :
    r.takeAll (token :: more) = s.takeAll more := by
  rw [takeAll, List.foldlM_cons, taken]
  rfl

theorem takeAll_append_of {tokens : List Token} (taken : r.takeAll tokens = some s) (more : List Token) :
    r.takeAll (tokens ++ more) = s.takeAll more := by
  rw [takeAll, List.foldlM_append, show tokens.foldlM take r = some s from taken]
  rfl

end Reader

/-! ## Elements -/

open Xml.Reader

/-- Tokens that begin an element and leave a reader in its content. -/
def Opens (tokens : List Token) (name : Name) (inside : Path) : Prop :=
  ∀ found, takeAll ⟨.content, inside, found⟩ tokens = some ⟨.content, name :: inside, (name :: inside) :: found⟩

/-- Tokens that are content: a reader comes out of them where it was, with the elements that they hold. -/
def Yields (tokens : List Token) (inside : Path) (elements : List Path) : Prop :=
  ∀ found, takeAll ⟨.content, inside, found⟩ tokens = some ⟨.content, inside, elements.reverse ++ found⟩

namespace Yields

variable {tokens more : List Token} {inside : Path} {elements others : List Path}

theorem nil (inside : Path) : Yields [] inside [] := fun _ => rfl

theorem append (first : Yields tokens inside elements) (second : Yields more inside others) :
    Yields (tokens ++ more) inside (elements ++ others) := by
  intro found
  rw [takeAll_append_of (first found), second, List.reverse_append, List.append_assoc]

theorem flatMap {α : Type} {f : α → List Token} {outline : α → List Path}
    (each : ∀ a, Yields (f a) inside (outline a)) (as : List α) :
    Yields (as.flatMap f) inside (as.flatMap outline) := by
  induction as with
  | nil => exact nil inside
  | cons a as ih =>
      rw [List.flatMap_cons, List.flatMap_cons]
      exact (each a).append ih

/-- An element inside of others, with what it holds. -/
theorem element {top name : String} {around : Path} (opens : Opens tokens name.toList (top.toList :: around))
    (named : isName name.toList = true) (content : Yields more (name.toList :: top.toList :: around) elements) :
    Yields (tokens ++ more ++ [.endTag name]) (top.toList :: around)
      ((name.toList :: top.toList :: around) :: elements) := by
  intro found
  rw [List.append_assoc, takeAll_append_of (opens found), takeAll_append_of (content _), List.reverse_cons,
    List.append_assoc]
  simp [takeAll, take, named, leave]

/-- A piece of text that is content by itself is content wherever it stands, with the same elements. -/
theorem raw {text : String} {letters : List Char} {p : List Path → Prop} (spelled : text.toList = letters)
    (read : ∃ r ∈ run ⟨.content, inside, []⟩ letters, r.place = .content ∧ r.inside = inside ∧ p r.found.reverse) :
    ∃ elements, Yields [.raw text] inside elements ∧ p elements := by
  obtain ⟨⟨place, around, last⟩, ran, content, same, holds⟩ := read
  obtain rfl : place = .content := content
  obtain rfl : around = inside := same
  refine ⟨last.reverse, fun found => ?_, holds⟩
  have again := run_after ⟨.content, around, []⟩ found letters
  rw [ran] at again
  simpa [takeAll, take, after, spelled] using again

end Yields

/-- The letters of a text in chunks, given those of each chunk. -/
theorem toList_join {chunks : List String} {letters : List (List Char)}
    (spelled : List.Forall₂ (fun s l => s = String.ofList l) chunks letters) :
    (String.join chunks).toList = letters.flatten := by
  induction spelled with
  | nil => rfl
  | cons same _ ih => simp_all

/-! ## Documents -/

theorem elements?_of_run {text : String} {body : List Char} {found : List Path}
    (shape : text.toList = declaration ++ body) (ran : start.run body = some ⟨.epilog, [], found⟩) :
    elements? text = some found.reverse := by
  have stripped : declaration.isPrefixOf? text.toList = some body :=
    List.isPrefixOf?_eq_some_iff_append_eq.mpr shape.symm
  simp [elements?, stripped, ran]

theorem toList_declaration :
    "<?xml version=\"1.0\" encoding=\"UTF-8\" standalone=\"yes\"?>\n".toList = declaration ++ ['\n'] := by
  decide +kernel

/-- Tokens of a root element make a document. -/
theorem elements?_document {line root : String} {head body : List Token} {elements : List Path}
    (declared : line.toList = declaration ++ ['\n'])
    (opens : start.takeAll head = some ⟨.content, [root.toList], [[root.toList]]⟩) (named : isName root.toList = true)
    (content : Yields body [root.toList] elements) :
    elements? (render (.raw line :: (head ++ body ++ [.endTag root]))) = some ([root.toList] :: elements) := by
  have closes : takeAll ⟨.content, [root.toList], elements.reverse ++ [[root.toList]]⟩ [.endTag root] =
      some ⟨.epilog, [], elements.reverse ++ [[root.toList]]⟩ := by
    simp [takeAll, take, named, leave]
  have taken : start.takeAll (head ++ body ++ [.endTag root]) =
      some ⟨.epilog, [], elements.reverse ++ [[root.toList]]⟩ := by
    rw [List.append_assoc, takeAll_append_of opens, takeAll_append_of (content _), closes]
  have ran : start.run ('\n' :: (render (head ++ body ++ [.endTag root])).toList) =
      some ⟨.epilog, [], elements.reverse ++ [[root.toList]]⟩ := by
    rw [run_cons_of (s := start) rfl, run_render taken]
  have shape : (render (.raw line :: (head ++ body ++ [.endTag root]))).toList =
      declaration ++ '\n' :: (render (head ++ body ++ [.endTag root])).toList := by
    rw [render_cons, toText_single rfl, String.toList_append, declared, List.append_assoc,
      List.singleton_append]
  rw [elements?_of_run shape ran]
  simp

end SheetExport.Xml
