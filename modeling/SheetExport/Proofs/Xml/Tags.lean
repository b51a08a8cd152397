import Mathlib.Data.List.TakeWhile
import SheetExport.Proofs.Text.Numeral
import SheetExport.Proofs.Xml.Outline
import SheetExport.Xml.Tags

/-! # The tags in tokens

A reader of tags goes where a reader of elements goes, and notes the attributes that it comes upon. So the tags of a
document can be told from its tokens as well: tokens that `Tell` tags are put one after another and inside of an
element, and the values of attributes are those of the tokens.
-/

namespace SheetExport.Xml

namespace TagReader

variable {s t u : TagReader} {r : Reader} {c : Char} {text : List Char}

theorem step_of (stepped : s.reader.step c = some r) : s.step c = some { s.note c with reader := r } := by
  rw [step, stepped]
  rfl

theorem run_cons_of (stepped : s.step c = some t) (rest : List Char) : s.run (c :: rest) = t.run rest := by
  rw [run, List.foldlM_cons, stepped]
  rfl

theorem run_append_of (ran : s.run text = some t) (rest : List Char) : s.run (text ++ rest) = t.run rest := by
  rw [run, List.foldlM_append, show text.foldlM step s = some t from ran]
  rfl

/-! ## Where nothing is noted -/

/-- Over characters that lead from one place to another where they are not noted, only the reader of elements moves. -/
theorem run_unnoted (P : Place → Prop) (ran : s.reader.run text = some r) (first : P s.reader.place)
    (stays : ∀ c ∈ text, ∀ r r' : Reader, P r.place → r.step c = some r' → P r'.place)
    (unnoted : ∀ c ∈ text, ∀ s : TagReader, P s.reader.place → s.note c = s) :
    s.run text = some { s with reader := r } := by
  induction text generalizing s with
  | nil =>
      obtain rfl : s.reader = r := Option.some.inj ran
      rfl
  | cons c text ih =>
      rw [Reader.run, List.foldlM_cons] at ran
      obtain ⟨r', stepped, ran⟩ := Option.bind_eq_some_iff.mp ran
      rw [run_cons_of (step_of stepped), unnoted c List.mem_cons_self s first]
      exact ih (s := { s with reader := r' }) ran (stays c List.mem_cons_self _ _ first stepped)
        (fun d later => stays d (List.mem_cons_of_mem c later)) fun d later => unnoted d (List.mem_cons_of_mem c later)

/-- Where a reader is in the text of an element. -/
def InContent (place : Place) : Prop := place = .content ∨ ∃ entity, place = .reference entity

theorem run_content (ran : s.reader.run text = some r) (content : s.reader.place = .content) (free : '<' ∉ text) :
    s.run text = some { s with reader := r } := by
  refine run_unnoted InContent ran (.inl content) (fun c inside r r' first stepped => ?_) fun c _ s first => ?_
  · have other : c ≠ '<' := fun same => free (same ▸ inside)
    have char := Reader.isChar_of_step stepped
    rcases first with place | ⟨entity, place⟩
    · simp only [Reader.step, char, place, if_true, if_neg other] at stepped
      split at stepped
      · cases stepped
        exact .inr ⟨_, rfl⟩
      · split at stepped
        · cases stepped
        · cases stepped
          exact .inl place
    · simp only [Reader.step, char, place, if_true, Reader.inReference] at stepped
      split at stepped
      · split at stepped
        · cases stepped
          exact .inl rfl
        · cases stepped
      · cases stepped
        exact .inr ⟨_, rfl⟩
  · rcases first with place | ⟨entity, place⟩ <;> rw [note, place]

/-- Over a name a reader gathers it, without noting anything. -/
theorem run_name (P : Place → Prop) {name : Name} (named : isName name = true) (ran : s.reader.run name = some r)
    (first : P s.reader.place)
    (stays : ∀ c, isNamePart c = true → ∀ r r' : Reader, P r.place → r.step c = some r' → P r'.place)
    (unnoted : ∀ c, isNamePart c = true → ∀ s : TagReader, P s.reader.place → s.note c = s) :
    s.run name = some { s with reader := r } :=
  run_unnoted P ran first (fun c inside => stays c (namePart_of_name named c inside))
    fun c inside => unnoted c (namePart_of_name named c inside)

theorem run_startTagName {name : Name} {inside : Path} {found : List Path} (named : isName name = true)
    (attributes : List (Name × List Char)) (tags : List Tag) :
    run ⟨⟨.tag, inside, found⟩, attributes, tags⟩ name = some ⟨⟨.startTag name, inside, found⟩, attributes, tags⟩ := by
  refine run_name (fun place => place = .tag ∨ ∃ name, place = .startTag name) named (Reader.run_startTagName named)
    (.inl rfl) (fun c part r r' first stepped => ?_) fun c part s first => ?_
  · have char := Reader.isChar_of_step stepped
    right
    rcases first with place | ⟨name, place⟩
    · simp only [Reader.step, char, place, if_true, if_neg (namePart_ne (d := '/') part)] at stepped
      split at stepped
      · cases stepped
        exact ⟨_, rfl⟩
      · cases stepped
    · simp only [Reader.step, char, place, if_true, part] at stepped
      cases stepped
      exact ⟨_, rfl⟩
  · rcases first with place | ⟨name, place⟩
    · rw [note, place]
    · rw [note, place]
      exact if_neg (namePart_ne (d := '>') part)

theorem run_endTagName {name : Name} {inside : Path} {found : List Path} (named : isName name = true)
    (attributes : List (Name × List Char)) (tags : List Tag) :
    run ⟨⟨.endTag [], inside, found⟩, attributes, tags⟩ name = some ⟨⟨.endTag name, inside, found⟩, attributes, tags⟩ := by
  refine run_name (fun place => ∃ name, place = .endTag name) named (Reader.run_endTagName named) ⟨_, rfl⟩
    (fun c part r r' ⟨name, place⟩ stepped => ?_) fun c part s ⟨name, place⟩ => ?_
  · have char := Reader.isChar_of_step stepped
    simp only [Reader.step, char, place, if_true, if_neg (namePart_ne (d := '>') part)] at stepped
    cases stepped
    exact ⟨_, rfl⟩
  · rw [note, place]

theorem run_attributeName {tag name : Name} {known : List Name} {inside : Path} {found : List Path}
    (named : isName name = true) (attributes : List (Name × List Char)) (tags : List Tag) :
    run ⟨⟨.attribute tag known [], inside, found⟩, attributes, tags⟩ name =
      some ⟨⟨.attribute tag known name, inside, found⟩, attributes, tags⟩ := by
  refine run_name (fun place => ∃ name, place = .attribute tag known name) named (Reader.run_attributeName named)
    ⟨_, rfl⟩ (fun c part r r' ⟨name, place⟩ stepped => ?_) fun c part s ⟨name, place⟩ => ?_
  · have char := Reader.isChar_of_step stepped
    simp only [Reader.step, char, place, if_true, if_neg (namePart_ne (d := '=') part)] at stepped
    cases stepped
    exact ⟨_, rfl⟩
  · rw [note, place]
    exact if_neg (namePart_ne (d := '=') part)

/-! ## Values -/

/-- All characters of a value are noted. -/
theorem run_value {tag name : Name} {known : List Name} {value : List Char} {attributes : List (Name × List Char)}
    {tags : List Tag} (ran : r.run text = some ⟨.value tag known, r.inside, r.found⟩)
    (first : r.place = .value tag known ∨ ∃ entity, r.place = .valueReference tag known entity) (free : '"' ∉ text) :
    run ⟨r, (name, value) :: attributes, tags⟩ text =
      some ⟨⟨.value tag known, r.inside, r.found⟩, (name, value ++ text) :: attributes, tags⟩ := by
  induction text generalizing r value with
  | nil =>
      rw [List.append_nil, show r = _ from Option.some.inj ran]
      rfl
  | cons c text ih =>
      rw [Reader.run, List.foldlM_cons] at ran
      obtain ⟨r', stepped, ran⟩ := Option.bind_eq_some_iff.mp ran
      rw [List.mem_cons, not_or] at free
      have char := Reader.isChar_of_step stepped
      have noted : (⟨r, (name, value) :: attributes, tags⟩ : TagReader).note c =
          ⟨r, (name, value ++ [c]) :: attributes, tags⟩ := by
        rcases first with place | ⟨entity, place⟩
        · rw [note]
          simp only [place, if_neg (Ne.symm free.1), extended]
        · rw [note]
          simp only [place, extended]
      have next : (r'.place = .value tag known ∨ ∃ entity, r'.place = .valueReference tag known entity) ∧
          r'.inside = r.inside ∧ r'.found = r.found := by
        rcases first with place | ⟨entity, place⟩
        · simp only [Reader.step, char, place, if_true, if_neg (Ne.symm free.1)] at stepped
          split at stepped
          · cases stepped
            exact ⟨.inr ⟨_, rfl⟩, rfl, rfl⟩
          · split at stepped
            · cases stepped
            · cases stepped
              exact ⟨.inl place, rfl, rfl⟩
        · simp only [Reader.step, char, place, if_true, Reader.inReference] at stepped
          split at stepped
          · split at stepped
            · cases stepped
              exact ⟨.inl rfl, rfl, rfl⟩
            · cases stepped
          · cases stepped
            exact ⟨.inr ⟨_, rfl⟩, rfl, rfl⟩
      obtain ⟨place, inside, found⟩ := next
      rw [run_cons_of (step_of stepped), noted, ← inside, ← found,
        show value ++ c :: text = (value ++ [c]) ++ text by simp]
      exact ih (inside ▸ found ▸ ran) place free.2

/-! ## Tokens -/

/-- What is noted of a token. -/
def noted (s : TagReader) : Token → TagReader
  | .emptyTag name => s.tagged name.toList
  | .attr name value => { s with attributes := (name.toList, (escape value).toList) :: s.attributes }
  | .intAttr name value => { s with attributes := (name.toList, (toString value).toList) :: s.attributes }
  | .close | .closeEmpty =>
      match s.reader.place.inStartTag with
      | some (tag, _) => s.tagged tag
      | none => s
  | _ => s

/-- The reader after the text of a token, for a token that may stand where the reader is. -/
def take (s : TagReader) : Token → Option TagReader
  | .raw text => s.run text.toList
  | token => (s.reader.take token).map fun r => { s.noted token with reader := r }

def takeAll (s : TagReader) (tokens : List Token) : Option TagReader := tokens.foldlM take s

theorem free_of_plain {text : List Char} (plain : ∀ c ∈ text, isPlain c = true) : '<' ∉ text ∧ '"' ∉ text :=
  ⟨fun inside => absurd (plain _ inside) (by decide), fun inside => absurd (plain _ inside) (by decide)⟩

theorem free_encodeChar (c : Char) : '<' ∉ encodeChar c ∧ '"' ∉ encodeChar c := by
  by_cases amp : c = '&'
  · subst amp
    decide
  by_cases lt : c = '<'
  · subst lt
    decide
  by_cases gt : c = '>'
  · subst gt
    decide
  by_cases quot : c = '"'
  · subst quot
    decide
  simp only [encodeChar, amp, lt, gt, quot, if_false]
  cases forbidden : isForbidden c with
  | true => exact free_of_plain (isPlain_coded (.inl forbidden))
  | false => simp [Ne.symm lt, Ne.symm quot]

/-- A written text has neither tags nor quotes in it. -/
theorem free_encode (text : List Char) : '<' ∉ encode text ∧ '"' ∉ encode text := by
  induction text with
  | nil => simp [encode]
  | cons c text ih =>
      obtain ⟨lt, quot⟩ := free_encodeChar c
      have code : '<' ∉ "_x005F_".toList ∧ '"' ∉ "_x005F_".toList := by decide
      simp only [encode, List.mem_append, not_or]
      split
      · exact ⟨⟨code.1, ih.1⟩, code.2, ih.2⟩
      · exact ⟨⟨lt, ih.1⟩, quot, ih.2⟩

theorem free_escape (text : String) : '<' ∉ (escape text).toList ∧ '"' ∉ (escape text).toList := by
  rw [escape, String.toList_ofList]
  exact free_encode text.toList

theorem run_attribute {tag name : Name} {known : List Name} {value : List Char}
    (opened : s.reader.place.inStartTag = some (tag, known)) (named : isName name = true)
    (fresh : known.contains name = false) (keeps : ∀ {r}, Reader.AtText r → r.run value = some r)
    (free : '"' ∉ value) :
    s.run (' ' :: name ++ ('=' :: '"' :: value ++ ['"'])) =
      some ⟨{ s.reader with place := .quoted tag (name :: known) }, (name, value) :: s.attributes, s.tags⟩ := by
  obtain ⟨⟨place, inside, found⟩, attributes, tags⟩ := s
  have blank : step ⟨⟨place, inside, found⟩, attributes, tags⟩ ' ' =
      some ⟨⟨.attribute tag known [], inside, found⟩, attributes, tags⟩ := by
    have stepped : Reader.step ⟨place, inside, found⟩ ' ' = some ⟨.attribute tag known [], inside, found⟩ :=
      Reader.step_inStartTag opened rfl rfl
    have same : note ⟨⟨place, inside, found⟩, attributes, tags⟩ ' ' = ⟨⟨place, inside, found⟩, attributes, tags⟩ := by
      cases place <;> first | rfl | cases opened
    rw [step_of stepped, same]
  have equals : step ⟨⟨.attribute tag known name, inside, found⟩, attributes, tags⟩ '=' =
      some ⟨⟨.quote tag (name :: known), inside, found⟩, (name, []) :: attributes, tags⟩ := by
    have stepped : Reader.step ⟨.attribute tag known name, inside, found⟩ '=' =
        some ⟨.quote tag (name :: known), inside, found⟩ := by
      have char : isChar '=' = true := by decide
      simp only [Reader.step, char, if_true, named, fresh, Bool.not_false, Bool.and_self]
      rfl
    exact step_of stepped
  have quote : step ⟨⟨.quote tag (name :: known), inside, found⟩, (name, []) :: attributes, tags⟩ '"' =
      some ⟨⟨.value tag (name :: known), inside, found⟩, (name, []) :: attributes, tags⟩ := rfl
  have quoted : run ⟨⟨.value tag (name :: known), inside, found⟩, (name, value) :: attributes, tags⟩ ['"'] =
      some ⟨⟨.quoted tag (name :: known), inside, found⟩, (name, value) :: attributes, tags⟩ := rfl
  have read : run ⟨⟨.value tag (name :: known), inside, found⟩, (name, []) :: attributes, tags⟩ value =
      some ⟨⟨.value tag (name :: known), inside, found⟩, (name, [] ++ value) :: attributes, tags⟩ :=
    run_value (keeps (Reader.atText_value tag (name :: known) inside found)) (.inl rfl) free
  rw [List.cons_append, run_cons_of blank, run_append_of (run_attributeName named _ _), List.cons_append,
    run_cons_of equals, List.cons_append, run_cons_of quote, run_append_of read, List.nil_append, quoted]

theorem run_text {text : String} (reads : s.reader.run text.toList = some s.reader) (content : s.reader.place = .content)
    (free : '<' ∉ text.toList) : s.run text.toList = some s := run_content reads content free

theorem run_startTag {name : String} (opens : s.reader.place = .prolog ∨ s.reader.place = .content)
    (named : isName name.toList = true) :
    s.run ("<" ++ name).toList = some { s with reader := { s.reader with place := .startTag name.toList } } := by
  obtain ⟨⟨place, inside, found⟩, attributes, tags⟩ := s
  have tag : step ⟨⟨place, inside, found⟩, attributes, tags⟩ '<' =
      some ⟨⟨.tag, inside, found⟩, attributes, tags⟩ := by
    obtain rfl | rfl : place = .prolog ∨ place = .content := opens
    · rfl
    · rfl
  rw [String.toList_append]
  exact (run_cons_of tag _).trans (run_startTagName named attributes tags)

/-- Where a reader is in a start tag, its end is noted. -/
theorem note_inStartTag {tag : Name} {known : List Name} (opened : s.reader.place.inStartTag = some (tag, known)) :
    s.note '>' = s.tagged tag ∧ s.note '/' = s := by
  obtain ⟨⟨place, inside, found⟩, attributes, tags⟩ := s
  cases place with
  | startTag name =>
      obtain ⟨rfl, -⟩ : name = tag ∧ [] = known := by simpa [Place.inStartTag] using opened
      exact ⟨rfl, rfl⟩
  | quoted name names =>
      obtain ⟨rfl, -⟩ : name = tag ∧ names = known := by simpa [Place.inStartTag] using opened
      exact ⟨rfl, rfl⟩
  | _ => cases opened

theorem noted_close {tag : Name} {known : List Name} (opened : s.reader.place.inStartTag = some (tag, known)) :
    s.noted .close = s.tagged tag ∧ s.noted .closeEmpty = s.tagged tag := by
  simp only [noted, opened, and_self]

theorem run_closeEmpty {tag : Name} {known : List Name} (opened : s.reader.place.inStartTag = some (tag, known)) :
    s.run "/>".toList = some { s.tagged tag with
      reader := Reader.leave s.reader.inside ((tag :: s.reader.inside) :: s.reader.found) } := by
  have slash : s.reader.step '/' = some { s.reader with place := .emptyTag tag } :=
    Reader.step_inStartTag opened rfl rfl
  rw [show "/>".toList = ['/', '>'] from rfl, run_cons_of (step_of slash), (note_inStartTag opened).2]
  rfl

theorem run_endTag {name : String} {around : Path} {found : List Path} (named : isName name.toList = true)
    (attributes : List (Name × List Char)) (tags : List Tag) :
    run ⟨⟨.content, name.toList :: around, found⟩, attributes, tags⟩ ("</" ++ name ++ ">").toList =
      some ⟨Reader.leave around found, attributes, tags⟩ := by
  have opens : run ⟨⟨.content, name.toList :: around, found⟩, attributes, tags⟩ "</".toList =
      some ⟨⟨.endTag [], name.toList :: around, found⟩, attributes, tags⟩ := rfl
  have closes : run ⟨⟨.endTag name.toList, name.toList :: around, found⟩, attributes, tags⟩ ">".toList =
      some ⟨Reader.leave around found, attributes, tags⟩ := by
    have char : isChar '>' = true := by decide
    have stepped : Reader.step ⟨.endTag name.toList, name.toList :: around, found⟩ '>' =
        some (Reader.leave around found) := by simp [Reader.step, char]
    rw [show ">".toList = ['>'] from rfl, run_cons_of (step_of stepped)]
    rfl
  rw [String.toList_append, String.toList_append, List.append_assoc, run_append_of opens,
    run_append_of (run_endTagName named attributes tags), closes]

theorem run_takeAttribute {name value : String} (taken : s.reader.takeAttribute name.toList = some r)
    (keeps : ∀ {r}, Reader.AtText r → r.run value.toList = some r) (free : '"' ∉ value.toList) :
    s.run (String.join [" " ++ name ++ "=\"" ++ value, "\""]).toList =
      some { s with reader := r, attributes := (name.toList, value.toList) :: s.attributes } := by
  have shape : (String.join [" " ++ name ++ "=\"" ++ value, "\""]).toList =
      ' ' :: name.toList ++ ('=' :: '"' :: value.toList ++ ['"']) := by
    simp [String.toList_append]
  rw [Reader.takeAttribute] at taken
  obtain ⟨⟨tag, known⟩, opened, taken⟩ := Option.bind_eq_some_iff.mp taken
  obtain ⟨named, taken⟩ := Option.ite_none_right_eq_some.mp taken
  rw [Bool.and_eq_true, Bool.not_eq_true'] at named
  rw [shape, run_attribute opened named.1 named.2 keeps free]
  cases taken
  rfl

/-- A reader that comes upon a token notes what `noted` says, whatever texts and numbers are in it. -/
theorem run_toText {token : Token} (taken : s.take token = some t) : s.run token.toText.toList = some t := by
  cases token with
  | raw text => rwa [Reader.toText_single rfl]
  | int n =>
      obtain ⟨r, reads, rfl⟩ := Option.map_eq_some_iff.mp taken
      obtain ⟨content, rfl⟩ : s.reader.place = .content ∧ s.reader = r := by simpa [Reader.take] using reads
      rw [Reader.toText_single rfl]
      exact run_text (Reader.run_text (isPlain_toString n) content) content (free_of_plain (isPlain_toString n)).1
  | float x =>
      obtain ⟨r, reads, rfl⟩ := Option.map_eq_some_iff.mp taken
      obtain ⟨content, rfl⟩ : s.reader.place = .content ∧ s.reader = r := by simpa [Reader.take] using reads
      rw [Reader.toText_single rfl]
      exact run_text (Reader.run_text (isPlain_numberText x) content) content (free_of_plain (isPlain_numberText x)).1
  | text text =>
      obtain ⟨r, reads, rfl⟩ := Option.map_eq_some_iff.mp taken
      have text' := Reader.run_toText reads
      obtain ⟨content, rfl⟩ : s.reader.place = .content ∧ s.reader = r := by simpa [Reader.take] using reads
      exact run_text text' content (by rw [Reader.toText_single rfl]; exact (free_escape text).1)
  | startTag name =>
      obtain ⟨r, reads, rfl⟩ := Option.map_eq_some_iff.mp taken
      obtain ⟨⟨opens, named⟩, reads⟩ : (_ ∧ _) ∧ _ := by
        simpa only [Reader.take, Option.ite_none_right_eq_some] using reads
      cases reads
      rw [Reader.toText_single rfl, run_startTag opens named]
      rfl
  | endTag name =>
      obtain ⟨r, reads, rfl⟩ := Option.map_eq_some_iff.mp taken
      obtain ⟨⟨place, inside, found⟩, attributes, tags⟩ := s
      cases inside with
      | nil => cases reads
      | cons top around =>
          obtain ⟨⟨content, rfl, named⟩, reads⟩ := Option.ite_none_right_eq_some.mp reads
          obtain rfl : place = .content := content
          cases reads
          rw [Reader.toText_single rfl, run_endTag named]
          rfl
  | emptyTag name =>
      obtain ⟨r, reads, rfl⟩ := Option.map_eq_some_iff.mp taken
      obtain ⟨⟨opens, named⟩, reads⟩ := Option.ite_none_right_eq_some.mp reads
      have opened : Place.inStartTag (.startTag name.toList) = some (name.toList, []) := rfl
      cases reads
      rw [Reader.toText_single rfl, String.toList_append, run_append_of (run_startTag opens named),
        run_closeEmpty (s := { s with reader := { s.reader with place := .startTag name.toList } }) opened]
      rfl
  | attr name value =>
      obtain ⟨r, reads, rfl⟩ := Option.map_eq_some_iff.mp taken
      exact run_takeAttribute reads (fun atText => atText.run_escape value) (free_escape value).2
  | intAttr name value =>
      obtain ⟨r, reads, rfl⟩ := Option.map_eq_some_iff.mp taken
      exact run_takeAttribute reads (fun atText => atText.run_plain (isPlain_toString value))
        (free_of_plain (isPlain_toString value)).2
  | close =>
      obtain ⟨r, reads, rfl⟩ := Option.map_eq_some_iff.mp taken
      obtain ⟨⟨tag, known⟩, opened, reads⟩ := Option.bind_eq_some_iff.mp reads
      have closes : s.reader.step '>' = some (s.reader.enter tag) := Reader.step_inStartTag opened rfl rfl
      cases reads
      rw [Reader.toText_single rfl, show ">".toList = ['>'] from rfl, run_cons_of (step_of closes),
        (note_inStartTag opened).1, (noted_close opened).1]
      rfl
  | closeEmpty =>
      obtain ⟨r, reads, rfl⟩ := Option.map_eq_some_iff.mp taken
      obtain ⟨⟨tag, known⟩, opened, reads⟩ := Option.bind_eq_some_iff.mp reads
      cases reads
      rw [Reader.toText_single rfl, run_closeEmpty opened, (noted_close opened).2]

theorem run_render {tokens : List Token} (taken : s.takeAll tokens = some t) :
    s.run (render tokens).toList = some t := by
  induction tokens generalizing s with
  | nil => exact taken
  | cons token tokens ih =>
      obtain ⟨u, first, rest⟩ := Option.bind_eq_some_iff.mp taken
      rw [Reader.render_cons, String.toList_append, run_append_of (run_toText first), ih rest]

theorem takeAll_cons_of {token : Token} (taken : s.take token = some t) (more : List Token) :
    s.takeAll (token :: more) = t.takeAll more := by
  rw [takeAll, List.foldlM_cons, taken]
  rfl

theorem takeAll_append_of {tokens : List Token} (taken : s.takeAll tokens = some t) (more : List Token) :
    s.takeAll (tokens ++ more) = t.takeAll more := by
  rw [takeAll, List.foldlM_append, show tokens.foldlM take s = some t from taken]
  rfl

/-! ## Start tags

A reader keeps the attributes of a start tag in the opposite order. -/

section StartTags

variable {tag : Name} {known : List Name} {inside : Path} {found : List Path} {attributes : List (Name × List Char)}
  {told : List Tag} {name : String}

theorem take_attr (named : isName name.toList = true) (fresh : known.contains name.toList = false) (value : String) :
    take ⟨⟨.quoted tag known, inside, found⟩, attributes.reverse, told⟩ (.attr name value) =
      some ⟨⟨.quoted tag (name.toList :: known), inside, found⟩,
        (attributes ++ [(name.toList, (escape value).toList)]).reverse, told⟩ := by
  have reads : Reader.take ⟨.quoted tag known, inside, found⟩ (.attr name value) =
      some ⟨.quoted tag (name.toList :: known), inside, found⟩ := Reader.takeAttribute_quoted named fresh
  simp only [take, reads, Option.map_some, noted, List.reverse_append, List.reverse_singleton, List.singleton_append]

theorem take_intAttr (named : isName name.toList = true) (fresh : known.contains name.toList = false) (value : Int) :
    take ⟨⟨.quoted tag known, inside, found⟩, attributes.reverse, told⟩ (.intAttr name value) =
      some ⟨⟨.quoted tag (name.toList :: known), inside, found⟩,
        (attributes ++ [(name.toList, (toString value).toList)]).reverse, told⟩ := by
  have reads : Reader.take ⟨.quoted tag known, inside, found⟩ (.intAttr name value) =
      some ⟨.quoted tag (name.toList :: known), inside, found⟩ := Reader.takeAttribute_quoted named fresh
  simp only [take, reads, Option.map_some, noted, List.reverse_append, List.reverse_singleton, List.singleton_append]

theorem take_close :
    take ⟨⟨.quoted tag known, inside, found⟩, attributes.reverse, told⟩ .close =
      some ⟨⟨.content, tag :: inside, (tag :: inside) :: found⟩, [], ⟨tag :: inside, attributes⟩ :: told⟩ :=
  congrArg (fun own => some (⟨⟨.content, tag :: inside, (tag :: inside) :: found⟩, [], ⟨tag :: inside, own⟩ :: told⟩ :
    TagReader)) (List.reverse_reverse attributes)

theorem take_closeEmpty (within : inside ≠ []) :
    take ⟨⟨.quoted tag known, inside, found⟩, attributes.reverse, told⟩ .closeEmpty =
      some ⟨⟨.content, inside, (tag :: inside) :: found⟩, [], ⟨tag :: inside, attributes⟩ :: told⟩ := by
  cases inside with
  | nil => exact absurd rfl within
  | cons top around =>
      exact congrArg (fun own => some (⟨⟨.content, top :: around, (tag :: top :: around) :: found⟩, [],
        ⟨tag :: top :: around, own⟩ :: told⟩ : TagReader)) (List.reverse_reverse attributes)

end StartTags

/-! ## What was found before -/

/-- The same reader after one that had found something. -/
def after (s : TagReader) (found : List Path) (told : List Tag) : TagReader :=
  { s with reader := s.reader.after found, tags := s.tags ++ told }

theorem note_after (s : TagReader) (found : List Path) (told : List Tag) (c : Char) :
    (s.after found told).note c = (s.note c).after found told := by
  obtain ⟨⟨place, inside, before⟩, attributes, tags⟩ := s
  cases place with
  | _ =>
      simp only [note, after, Reader.after, tagged]
      repeat' split
      all_goals rfl

theorem step_after (s : TagReader) (found : List Path) (told : List Tag) (c : Char) :
    (s.after found told).step c = (s.step c).map fun t => t.after found told := by
  have reads : (s.after found told).reader.step c = (s.reader.step c).map fun r => r.after found :=
    Reader.step_after s.reader found c
  rw [step, step, reads, note_after]
  cases s.reader.step c <;> rfl

/-- What was found before has no part in reading. -/
theorem run_after (s : TagReader) (found : List Path) (told : List Tag) (text : List Char) :
    (s.after found told).run text = (s.run text).map fun t => t.after found told := by
  induction text generalizing s with
  | nil => rfl
  | cons c text ih =>
      simp only [run, List.foldlM_cons, step_after]
      cases s.step c with
      | none => rfl
      | some t => exact ih t

end TagReader

/-! ## Tags of content -/

open Xml.TagReader

/-- Tokens that begin an element with some attributes inside of others and leave a reader in its content. -/
def Enters (tokens : List Token) (name : Name) (inside : Path) (attributes : List (Name × List Char)) : Prop :=
  ∀ found told, takeAll ⟨⟨.content, inside, found⟩, [], told⟩ tokens =
    some ⟨⟨.content, name :: inside, (name :: inside) :: found⟩, [], ⟨name :: inside, attributes⟩ :: told⟩

/-- Tokens that are content: a reader comes out of them where it was, with the tags that they hold. -/
def Tells (tokens : List Token) (inside : Path) (tags : List Tag) : Prop :=
  ∀ found told, takeAll ⟨⟨.content, inside, found⟩, [], told⟩ tokens =
    some ⟨⟨.content, inside, (tags.map Tag.path).reverse ++ found⟩, [], tags.reverse ++ told⟩

namespace Tells

variable {tokens more : List Token} {inside : Path} {tags others : List Tag}

theorem nil (inside : Path) : Tells [] inside [] := fun _ _ => rfl

theorem append (first : Tells tokens inside tags) (second : Tells more inside others) :
    Tells (tokens ++ more) inside (tags ++ others) := by
  intro found told
  rw [takeAll_append_of (first found told), second]
  simp only [List.map_append, List.reverse_append, List.append_assoc]

theorem flatMap {α : Type} {f : α → List Token} {told : α → List Tag} (each : ∀ a, Tells (f a) inside (told a))
    (as : List α) : Tells (as.flatMap f) inside (as.flatMap told) := by
  induction as with
  | nil => exact nil inside
  | cons a as ih =>
      rw [List.flatMap_cons, List.flatMap_cons]
      exact (each a).append ih

/-- An element inside of others, with what it holds. -/
theorem element {name top : String} {around : Path} {attributes : List (Name × List Char)}
    (enters : Enters tokens name.toList (top.toList :: around) attributes) (named : isName name.toList = true)
    (content : Tells more (name.toList :: top.toList :: around) tags) :
    Tells (tokens ++ more ++ [.endTag name]) (top.toList :: around)
      (⟨name.toList :: top.toList :: around, attributes⟩ :: tags) := by
  intro found told
  rw [List.append_assoc, takeAll_append_of (enters found told), takeAll_append_of (content _ _)]
  simp [takeAll, take, noted, Reader.take, named, Reader.leave]

/-- A piece of text that is content by itself is content wherever it stands, with the same tags. -/
theorem raw {text : String} {letters : List Char} (spelled : text.toList = letters)
    (read : run ⟨⟨.content, inside, []⟩, [], []⟩ letters =
      some ⟨⟨.content, inside, (tags.map Tag.path).reverse⟩, [], tags.reverse⟩) : Tells [.raw text] inside tags := by
  intro found told
  have again := run_after ⟨⟨.content, inside, []⟩, [], []⟩ found told letters
  rw [read] at again
  simpa [takeAll, take, after, Reader.after, spelled] using again

/-- The tags of such a piece, when only something about them is to be known. -/
theorem exists_raw {text : String} {letters : List Char} {p : List Tag → Prop} (spelled : text.toList = letters)
    (read : ∃ s ∈ run ⟨⟨.content, inside, []⟩, [], []⟩ letters, s.reader = ⟨.content, inside, s.tags.map Tag.path⟩ ∧
      s.attributes = [] ∧ p s.tags.reverse) :
    ∃ tags, Tells [.raw text] inside tags ∧ p tags := by
  obtain ⟨⟨reader, attributes, tags⟩, ran, place, rfl, holds⟩ := read
  obtain rfl : reader = ⟨.content, inside, tags.map Tag.path⟩ := place
  refine ⟨tags.reverse, raw spelled ?_, holds⟩
  rw [Option.mem_def.mp ran, List.map_reverse, List.reverse_reverse, List.reverse_reverse]

end Tells

/-! ## Documents -/

theorem tags?_of_run {text : String} {body : List Char} {found : List Path} {told : List Tag}
    (shape : text.toList = declaration ++ body)
    (ran : TagReader.start.run body = some ⟨⟨.epilog, [], found⟩, [], told⟩) : tags? text = some told.reverse := by
  have stripped : declaration.isPrefixOf? text.toList = some body :=
    List.isPrefixOf?_eq_some_iff_append_eq.mpr shape.symm
  simp [tags?, stripped, ran]

/-- Tokens of a root element make a document. -/
theorem tags?_document {line root : String} {head body : List Token} {attributes : List (Name × List Char)}
    {tags : List Tag} (declared : line.toList = declaration ++ ['\n'])
    (enters : TagReader.start.takeAll head =
      some ⟨⟨.content, [root.toList], [[root.toList]]⟩, [], [⟨[root.toList], attributes⟩]⟩)
    (named : isName root.toList = true) (content : Tells body [root.toList] tags) :
    tags? (render (.raw line :: (head ++ body ++ [.endTag root]))) = some (⟨[root.toList], attributes⟩ :: tags) := by
  have taken : TagReader.start.takeAll (head ++ body ++ [.endTag root]) =
      some ⟨⟨.epilog, [], (tags.map Tag.path).reverse ++ [[root.toList]]⟩, [],
        tags.reverse ++ [⟨[root.toList], attributes⟩]⟩ := by
    rw [List.append_assoc, takeAll_append_of enters, takeAll_append_of (content _ _)]
    simp [takeAll, take, noted, Reader.take, named, Reader.leave]
  have ran : TagReader.start.run ('\n' :: (render (head ++ body ++ [.endTag root])).toList) =
      some ⟨⟨.epilog, [], (tags.map Tag.path).reverse ++ [[root.toList]]⟩, [],
        tags.reverse ++ [⟨[root.toList], attributes⟩]⟩ := by
    rw [run_cons_of (show TagReader.start.step '\n' = some TagReader.start from rfl), run_render taken]
  have shape : (render (.raw line :: (head ++ body ++ [.endTag root]))).toList =
      declaration ++ '\n' :: (render (head ++ body ++ [.endTag root])).toList := by
    rw [Reader.render_cons, Reader.toText_single rfl, String.toList_append, declared, List.append_assoc,
      List.singleton_append]
  rw [tags?_of_run shape ran]
  simp

/-! ## Elements with a path -/

variable {path : Path} {tags : List Tag}

/-- What comes before the first element with a path has no part in them. -/
theorem elementsAt_after {first : List Tag} (none : ∀ t ∈ first, t.path ≠ path) (tags : List Tag) :
    elementsAt path (first ++ tags) = elementsAt path tags := by
  induction first with
  | nil => rfl
  | cons t first ih =>
      rw [List.cons_append, elementsAt, if_neg (none t List.mem_cons_self)]
      exact ih fun u inside => none u (List.mem_cons_of_mem t inside)

theorem elementsAt_of_none (none : ∀ t ∈ tags, t.path ≠ path) : elementsAt path tags = [] := by
  simpa [elementsAt] using elementsAt_after none []

/-- An element does not reach into what begins outside of it. -/
theorem elementsAt_append {first second : List Tag} (outside : ∀ t ∈ second.head?, t.isInside path = false) :
    elementsAt path (first ++ second) = elementsAt path first ++ elementsAt path second := by
  have reach (rest : List Tag) : (rest ++ second).takeWhile (Tag.isInside path) = rest.takeWhile (Tag.isInside path) := by
    induction rest with
    | nil =>
        cases second with
        | nil => rfl
        | cons t second => simp [outside t rfl]
    | cons u rest ih =>
        rw [List.cons_append, List.takeWhile_cons, List.takeWhile_cons, ih]
  induction first with
  | nil => rfl
  | cons t first ih =>
      rw [List.cons_append, elementsAt, elementsAt]
      split
      · rw [reach, ih, List.cons_append]
      · exact ih

/-- Tags that are neither at a path nor inside of it do not matter to what is there. -/
theorem elementsAt_between {first last : List Tag} (before : ∀ t ∈ first, ¬ path <:+ t.path)
    (after : ∀ t ∈ last, ¬ path <:+ t.path) (tags : List Tag) :
    elementsAt path (first ++ (tags ++ last)) = elementsAt path tags := by
  have other : ∀ t : Tag, ¬ path <:+ t.path → t.path ≠ path := fun t apart same =>
    apart (same ▸ List.suffix_refl path)
  rw [elementsAt_after (fun t inside => other t (before t inside)), elementsAt_append (fun t first => ?_),
    elementsAt_of_none (fun t inside => other t (after t inside)), List.append_nil]
  have apart : path.isSuffixOf t.path = false :=
    Bool.eq_false_iff.mpr fun inside => after t (List.mem_of_mem_head? first) (List.isSuffixOf_iff_suffix.mp inside)
  rw [Tag.isInside, apart, Bool.and_false]

/-- Elements one after another, each with what is inside of it. -/
theorem elementsAt_flatMap {β : Type} (own : β → Tag) (inner : β → List Tag) (bs : List β)
    (here : ∀ b, (own b).path = path) (inside : ∀ b, ∀ t ∈ inner b, t.isInside path = true) :
    elementsAt path (bs.flatMap fun b => own b :: inner b) = bs.map fun b => own b :: inner b := by
  have single (b : β) : elementsAt path (own b :: inner b) = [own b :: inner b] := by
    have all : (inner b).takeWhile (Tag.isInside path) = inner b :=
      List.takeWhile_eq_self_iff.mpr (inside b)
    rw [elementsAt, if_pos (here b), all, elementsAt_of_none fun t held same => ?_]
    simpa [Tag.isInside, same] using inside b t held
  induction bs with
  | nil => rfl
  | cons b bs ih =>
      rw [List.flatMap_cons, elementsAt_append ?_, single, ih]
      · rfl
      · intro t first
        cases bs with
        | nil => simp at first
        | cons c bs =>
            obtain rfl : own c = t := by simpa using first
            simp [Tag.isInside, here]

/-! ## Numbers in attributes -/

theorem readDigits?_toString (n : Nat) : Text.readDigits? (toString (n : Int)).toList = some n := by
  have chars : (toString (n : Int)).toList = Nat.toDigits 10 n := Nat.toList_repr
  rw [chars, Text.readDigits?_toDigits]

end SheetExport.Xml
