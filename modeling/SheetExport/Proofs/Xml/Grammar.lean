import Mathlib.Data.List.Basic
import SheetExport.Proofs.Xml.Document

/-! # What is read is well-formed

`Demands` says, for every place where a reader may be, what the rest of a text has to be for it to come to the end of a
document there. If a reader takes a step and what it then demands follows, what it demanded before followed too; so
what it reads to the end is what it demanded at the start, which is a document.
-/

namespace SheetExport.Xml

/-- The contents of the open elements, with their end tags, and what may follow the root element. -/
def Closes : Path → List Char → List Path → Prop
  | [], text, elements => elements = [] ∧ ∀ c ∈ text, isSpace c = true
  | top :: around, text, elements => ∃ inner rest others,
      IsContent (top :: around) text inner ('<' :: '/' :: (top ++ '>' :: rest)) ∧
      Closes around rest others ∧ elements = inner ++ others

/-- An element, and what follows it. -/
def Begins (inside : Path) (text : List Char) (elements : List Path) : Prop :=
  ∃ inner rest others, IsElement inside text inner rest ∧ Closes inside rest others ∧ elements = inner ++ others

/-- The rest of a start tag with its attributes, and what follows the tag. -/
def Opened (inside : Path) (name : Name) (known : List Name) (text : List Char) (elements : List Path) : Prop :=
  ∃ rest others, elements = (name :: inside) :: others ∧
    ((IsAttributes known text ('/' :: '>' :: rest) ∧ Closes inside rest others) ∨
      (IsAttributes known text ('>' :: rest) ∧ Closes (name :: inside) rest others))

namespace Reader

/-- What the text has to be that a reader is still to read, and the elements that it is still to find. -/
def Demands (r : Reader) (text : List Char) (elements : List Path) : Prop :=
  match r.place with
  | .prolog => r.inside = [] → ∃ before root, text = before ++ root ∧ (∀ c ∈ before, isSpace c = true) ∧
      Begins r.inside root elements
  | .content => r.inside ≠ [] → Closes r.inside text elements
  | .epilog => Closes [] text elements
  | .reference entity => r.inside ≠ [] → ∃ more rest, text = more ++ ';' :: rest ∧ entity ++ more ∈ entities ∧
      Closes r.inside rest elements
  | .tag => Begins r.inside ('<' :: text) elements ∨ ∃ top around rest, r.inside = top :: around ∧
      text = '/' :: (top ++ '>' :: rest) ∧ Closes around rest elements
  | .startTag name => ∃ more rest, text = more ++ rest ∧ (∀ c ∈ more, isNamePart c = true) ∧
      Opened r.inside (name ++ more) [] rest elements
  | .attribute tag known name => ∃ more value rest, text = more ++ '=' :: '"' :: value ∧ isName (name ++ more) = true ∧
      name ++ more ∉ known ∧ IsValue value rest ∧ Opened r.inside tag ((name ++ more) :: known) rest elements
  | .quote tag known => ∃ value rest, text = '"' :: value ∧ IsValue value rest ∧ Opened r.inside tag known rest elements
  | .value tag known => ∃ rest, IsValue text rest ∧ Opened r.inside tag known rest elements
  | .valueReference tag known entity => ∃ more value rest, text = more ++ ';' :: value ∧ entity ++ more ∈ entities ∧
      IsValue value rest ∧ Opened r.inside tag known rest elements
  | .quoted tag known => Opened r.inside tag known text elements
  | .emptyTag name => ∃ rest others, text = '>' :: rest ∧ Closes r.inside rest others ∧
      elements = (name :: r.inside) :: others
  | .endTag name => ∃ more around rest, r.inside = (name ++ more) :: around ∧ text = more ++ '>' :: rest ∧
      Closes around rest elements

variable {r s : Reader} {c : Char} {text : List Char} {more elements : List Path} {inside around : Path}
variable {found : List Path} {top tag name entity : Name} {known : List Name}

/-- What was demanded before a step, given what is demanded after it. -/
def Asked (r : Reader) (c : Char) (text : List Char) (s : Reader) (more : List Path) : Prop :=
  ∃ elements, r.Demands (c :: text) elements ∧ s.found.reverse ++ more = r.found.reverse ++ elements

theorem closes_of_leave (h : Demands (leave around found) text more) : Closes around text more := by
  cases around with
  | nil => exact h
  | cons top around => exact h (List.cons_ne_nil top around)

/-- One attribute more in a start tag. -/
theorem opened_attribute {value rest : List Char} (named : isName name = true) (fresh : name ∉ known)
    (quoted : IsValue value rest) (opened : Opened inside tag (name :: known) rest elements) :
    Opened inside tag known (' ' :: (name ++ '=' :: '"' :: value)) elements := by
  obtain ⟨last, others, rfl, ⟨attributes, closes⟩ | ⟨attributes, closes⟩⟩ := opened
  · exact ⟨last, others, rfl, .inl ⟨.one named fresh quoted attributes, closes⟩⟩
  · exact ⟨last, others, rfl, .inr ⟨.one named fresh quoted attributes, closes⟩⟩

theorem opened_of_inTag (stepped : r.inTag tag known c = some s) (h : s.Demands text more) :
    ∃ elements, Opened r.inside tag known (c :: text) elements ∧
      s.found.reverse ++ more = r.found.reverse ++ elements := by
  simp only [inTag] at stepped
  split at stepped
  · subst c
    obtain rfl := Option.some.inj stepped
    obtain ⟨name, value, rest, rfl, named, fresh, quoted, opened⟩ := h
    exact ⟨more, opened_attribute named fresh quoted opened, rfl⟩
  split at stepped
  · subst c
    obtain rfl := Option.some.inj stepped
    obtain ⟨rest, others, rfl, closes, rfl⟩ := h
    exact ⟨_, ⟨rest, others, rfl, .inl ⟨.none, closes⟩⟩, rfl⟩
  split at stepped
  · subst c
    obtain rfl := Option.some.inj stepped
    have closes : Closes (tag :: r.inside) text more := h (List.cons_ne_nil tag r.inside)
    refine ⟨(tag :: r.inside) :: more, ⟨text, more, rfl, .inr ⟨.none, closes⟩⟩, ?_⟩
    simp [enter]
  · cases stepped

/-- An element in the content of another. -/
theorem closes_element (h : Begins (top :: around) text elements) : Closes (top :: around) text elements := by
  obtain ⟨inner, middle, others, element, ⟨content, rest, last, holds, closes, rfl⟩, rfl⟩ := h
  exact ⟨inner ++ content, rest, last, .element element holds, closes, (List.append_assoc ..).symm⟩

/-- A start tag that is complete makes an element of what follows it. -/
theorem begins_of_opened (named : isName name = true) (h : Opened inside name [] text elements) :
    Begins inside ('<' :: (name ++ text)) elements := by
  obtain ⟨rest, others, rfl, ⟨attributes, closes⟩ | ⟨attributes, closes⟩⟩ := h
  · exact ⟨_, rest, others, .empty named attributes, closes, rfl⟩
  · obtain ⟨content, last, others, holds, closes, rfl⟩ := closes
    exact ⟨_, last, others, .full named attributes holds, closes, rfl⟩

theorem closes_char (char : isChar c = true) (lt : c ≠ '<') (amp : c ≠ '&') (gt : c ≠ '>')
    (h : Closes (top :: around) text elements) : Closes (top :: around) (c :: text) elements := by
  obtain ⟨inner, rest, others, content, closes, rfl⟩ := h
  exact ⟨inner, rest, others, .char char lt amp gt content, closes, rfl⟩

theorem closes_reference (known : entity ∈ entities) (h : Closes (top :: around) text elements) :
    Closes (top :: around) ('&' :: (entity ++ ';' :: text)) elements := by
  obtain ⟨inner, rest, others, content, closes, rfl⟩ := h
  exact ⟨inner, rest, others, .reference known content, closes, rfl⟩

theorem closes_endTag (h : Closes around text elements) :
    Closes (top :: around) ('<' :: '/' :: (top ++ '>' :: text)) elements :=
  ⟨[], text, elements, .nothing, h, rfl⟩

/-! ## Steps -/

theorem asked_prolog (stepped : step ⟨.prolog, inside, found⟩ c = some s) (h : s.Demands text more) :
    Asked ⟨.prolog, inside, found⟩ c text s more := by
  have char := isChar_of_step stepped
  simp only [step, char, if_true] at stepped
  split at stepped
  · rename_i space
    obtain rfl := Option.some.inj stepped
    refine ⟨more, fun outside => ?_, rfl⟩
    obtain ⟨before, root, rfl, spaces, begins⟩ := h outside
    exact ⟨c :: before, root, rfl, List.forall_mem_cons.mpr ⟨space, spaces⟩, begins⟩
  split at stepped
  · subst c
    obtain rfl := Option.some.inj stepped
    refine ⟨more, fun outside => ?_, rfl⟩
    obtain begins | ⟨top, around, _, same, _⟩ := h
    · exact ⟨[], '<' :: text, rfl, by simp, begins⟩
    · cases outside.symm.trans same
  · cases stepped

theorem asked_content (stepped : step ⟨.content, inside, found⟩ c = some s) (h : s.Demands text more) :
    Asked ⟨.content, inside, found⟩ c text s more := by
  have char := isChar_of_step stepped
  simp only [step, char, if_true] at stepped
  split at stepped
  · subst c
    obtain rfl := Option.some.inj stepped
    refine ⟨more, fun nested => ?_, rfl⟩
    cases inside with
    | nil => exact absurd rfl nested
    | cons top around =>
        obtain begins | ⟨_, _, rest, same, rfl, closes⟩ := h
        · exact closes_element begins
        · cases same
          exact closes_endTag closes
  split at stepped
  · subst c
    obtain rfl := Option.some.inj stepped
    refine ⟨more, fun nested => ?_, rfl⟩
    obtain ⟨entity, rest, rfl, known, closes⟩ := h nested
    cases inside with
    | nil => exact absurd rfl nested
    | cons top around => exact closes_reference known closes
  split at stepped
  · cases stepped
  · rename_i lt amp gt
    obtain rfl := Option.some.inj stepped
    refine ⟨more, fun nested => ?_, rfl⟩
    cases inside with
    | nil => exact absurd rfl nested
    | cons top around => exact closes_char char lt amp gt (h nested)

theorem asked_epilog (stepped : step ⟨.epilog, inside, found⟩ c = some s) (h : s.Demands text more) :
    Asked ⟨.epilog, inside, found⟩ c text s more := by
  have char := isChar_of_step stepped
  simp only [step, char, if_true] at stepped
  split at stepped
  · rename_i space
    obtain rfl := Option.some.inj stepped
    obtain ⟨rfl, spaces⟩ := h
    exact ⟨[], ⟨rfl, List.forall_mem_cons.mpr ⟨space, spaces⟩⟩, rfl⟩
  · cases stepped

theorem asked_reference (stepped : step ⟨.reference entity, inside, found⟩ c = some s) (h : s.Demands text more) :
    Asked ⟨.reference entity, inside, found⟩ c text s more := by
  have char := isChar_of_step stepped
  simp only [step, char, if_true, inReference] at stepped
  split at stepped
  · subst c
    obtain ⟨known, stepped⟩ := Option.ite_none_right_eq_some.mp stepped
    obtain rfl := Option.some.inj stepped
    refine ⟨more, fun nested => ⟨[], text, rfl, ?_, h nested⟩, rfl⟩
    simpa using known
  · obtain rfl := Option.some.inj stepped
    refine ⟨more, fun nested => ?_, rfl⟩
    obtain ⟨name, rest, rfl, known, closes⟩ := h nested
    exact ⟨c :: name, rest, rfl, by simpa using known, closes⟩

theorem asked_tag (stepped : step ⟨.tag, inside, found⟩ c = some s) (h : s.Demands text more) :
    Asked ⟨.tag, inside, found⟩ c text s more := by
  have char := isChar_of_step stepped
  simp only [step, char, if_true] at stepped
  split at stepped
  · subst c
    obtain rfl := Option.some.inj stepped
    obtain ⟨name, around, rest, rfl, rfl, closes⟩ := h
    exact ⟨more, .inr ⟨name, around, rest, rfl, rfl, closes⟩, rfl⟩
  · obtain ⟨start, stepped⟩ := Option.ite_none_right_eq_some.mp stepped
    obtain rfl := Option.some.inj stepped
    obtain ⟨name, rest, rfl, parts, opened⟩ := h
    have named : isName (c :: name) = true := isName_iff.mpr ⟨c, name, rfl, start, parts⟩
    exact ⟨more, .inl (begins_of_opened named opened), rfl⟩

theorem asked_startTag (stepped : step ⟨.startTag name, inside, found⟩ c = some s) (h : s.Demands text more) :
    Asked ⟨.startTag name, inside, found⟩ c text s more := by
  have char := isChar_of_step stepped
  simp only [step, char, if_true] at stepped
  split at stepped
  · rename_i part
    obtain rfl := Option.some.inj stepped
    obtain ⟨name', rest, rfl, parts, opened⟩ := h
    refine ⟨more, ⟨c :: name', rest, rfl, List.forall_mem_cons.mpr ⟨part, parts⟩, ?_⟩, rfl⟩
    simpa using opened
  · obtain ⟨elements, opened, same⟩ := opened_of_inTag stepped h
    exact ⟨elements, ⟨[], c :: text, rfl, by simp, by simpa using opened⟩, same⟩

theorem asked_attribute (stepped : step ⟨.attribute tag known name, inside, found⟩ c = some s)
    (h : s.Demands text more) : Asked ⟨.attribute tag known name, inside, found⟩ c text s more := by
  have char := isChar_of_step stepped
  simp only [step, char, if_true] at stepped
  split at stepped
  · subst c
    obtain ⟨named, stepped⟩ := Option.ite_none_right_eq_some.mp stepped
    obtain rfl := Option.some.inj stepped
    obtain ⟨value, rest, rfl, quoted, opened⟩ := h
    rw [Bool.and_eq_true] at named
    refine ⟨more, ⟨[], value, rest, rfl, ?_, ?_, quoted, ?_⟩, rfl⟩
    · simpa using named.1
    · simpa using named.2
    · simpa using opened
  · obtain rfl := Option.some.inj stepped
    obtain ⟨name', value, rest, rfl, named, fresh, quoted, opened⟩ := h
    refine ⟨more, ⟨c :: name', value, rest, rfl, ?_, ?_, quoted, ?_⟩, rfl⟩
    · simpa using named
    · simpa using fresh
    · simpa using opened

theorem asked_quote (stepped : step ⟨.quote tag known, inside, found⟩ c = some s) (h : s.Demands text more) :
    Asked ⟨.quote tag known, inside, found⟩ c text s more := by
  have char := isChar_of_step stepped
  simp only [step, char, if_true] at stepped
  obtain ⟨rfl, stepped⟩ := Option.ite_none_right_eq_some.mp stepped
  obtain rfl := Option.some.inj stepped
  obtain ⟨rest, quoted, opened⟩ := h
  exact ⟨more, ⟨text, rest, rfl, quoted, opened⟩, rfl⟩

theorem asked_value (stepped : step ⟨.value tag known, inside, found⟩ c = some s) (h : s.Demands text more) :
    Asked ⟨.value tag known, inside, found⟩ c text s more := by
  have char := isChar_of_step stepped
  simp only [step, char, if_true] at stepped
  split at stepped
  · subst c
    obtain rfl := Option.some.inj stepped
    exact ⟨more, ⟨text, .done, h⟩, rfl⟩
  split at stepped
  · subst c
    obtain rfl := Option.some.inj stepped
    obtain ⟨entity, value, rest, rfl, known', quoted, opened⟩ := h
    exact ⟨more, ⟨rest, .reference known' quoted, opened⟩, rfl⟩
  split at stepped
  · cases stepped
  · rename_i quote amp lt
    obtain rfl := Option.some.inj stepped
    obtain ⟨rest, quoted, opened⟩ := h
    exact ⟨more, ⟨rest, .char char quote amp lt quoted, opened⟩, rfl⟩

theorem asked_valueReference (stepped : step ⟨.valueReference tag known entity, inside, found⟩ c = some s)
    (h : s.Demands text more) : Asked ⟨.valueReference tag known entity, inside, found⟩ c text s more := by
  have char := isChar_of_step stepped
  simp only [step, char, if_true, inReference] at stepped
  split at stepped
  · subst c
    obtain ⟨known', stepped⟩ := Option.ite_none_right_eq_some.mp stepped
    obtain rfl := Option.some.inj stepped
    obtain ⟨rest, quoted, opened⟩ := h
    exact ⟨more, ⟨[], text, rest, rfl, by simpa using known', quoted, opened⟩, rfl⟩
  · obtain rfl := Option.some.inj stepped
    obtain ⟨name, value, rest, rfl, known', quoted, opened⟩ := h
    exact ⟨more, ⟨c :: name, value, rest, rfl, by simpa using known', quoted, opened⟩, rfl⟩

theorem asked_quoted (stepped : step ⟨.quoted tag known, inside, found⟩ c = some s) (h : s.Demands text more) :
    Asked ⟨.quoted tag known, inside, found⟩ c text s more := by
  have char := isChar_of_step stepped
  simp only [step, char, if_true] at stepped
  exact opened_of_inTag stepped h

theorem asked_emptyTag (stepped : step ⟨.emptyTag name, inside, found⟩ c = some s) (h : s.Demands text more) :
    Asked ⟨.emptyTag name, inside, found⟩ c text s more := by
  have char := isChar_of_step stepped
  simp only [step, char, if_true] at stepped
  obtain ⟨rfl, stepped⟩ := Option.ite_none_right_eq_some.mp stepped
  obtain rfl := Option.some.inj stepped
  exact ⟨_, ⟨text, more, rfl, closes_of_leave h, rfl⟩, by simp [leave]⟩

theorem asked_endTag (stepped : step ⟨.endTag name, inside, found⟩ c = some s) (h : s.Demands text more) :
    Asked ⟨.endTag name, inside, found⟩ c text s more := by
  have char := isChar_of_step stepped
  simp only [step, char, if_true] at stepped
  split at stepped
  · subst c
    cases inside with
    | nil => cases stepped
    | cons top around =>
        obtain ⟨rfl, closed⟩ := Option.ite_none_right_eq_some.mp stepped
        obtain rfl := Option.some.inj closed
        exact ⟨more, ⟨[], around, text, by simp, rfl, closes_of_leave h⟩, rfl⟩
  · obtain rfl := Option.some.inj stepped
    obtain ⟨name', around, rest, same, rfl, closes⟩ := h
    exact ⟨more, ⟨c :: name', around, rest, by simpa using same, rfl, closes⟩, rfl⟩

/-- If a reader takes a step, what it demanded follows from what it demands then. -/
theorem demands_of_step (stepped : r.step c = some s) (h : s.Demands text more) : Asked r c text s more := by
  obtain ⟨place, inside, found⟩ := r
  cases place with
  | prolog => exact asked_prolog stepped h
  | content => exact asked_content stepped h
  | epilog => exact asked_epilog stepped h
  | reference entity => exact asked_reference stepped h
  | tag => exact asked_tag stepped h
  | startTag name => exact asked_startTag stepped h
  | «attribute» tag known name => exact asked_attribute stepped h
  | quote tag known => exact asked_quote stepped h
  | value tag known => exact asked_value stepped h
  | valueReference tag known entity => exact asked_valueReference stepped h
  | quoted tag known => exact asked_quoted stepped h
  | emptyTag name => exact asked_emptyTag stepped h
  | endTag name => exact asked_endTag stepped h

/-- What a reader reads to the end of a document is what it demands. -/
theorem demands_of_run (ran : r.run text = some s) (ended : s.place = .epilog) :
    ∃ elements, r.Demands text elements ∧ s.found.reverse = r.found.reverse ++ elements := by
  induction text generalizing r with
  | nil =>
      obtain rfl : r = s := Option.some.inj ran
      refine ⟨[], ?_, (List.append_nil _).symm⟩
      rw [Demands, ended]
      exact ⟨rfl, by simp⟩
  | cons c text ih =>
      obtain ⟨t, stepped, ran⟩ := Option.bind_eq_some_iff.mp ran
      obtain ⟨more, demanded, same⟩ := ih ran
      obtain ⟨elements, before, found⟩ := demands_of_step stepped demanded
      exact ⟨elements, before, same.trans found⟩

end Reader

/-- What is read as a document is one, with the elements that were found. -/
theorem isDocument_of_elements? {text : String} {elements : List Path} (read : elements? text = some elements) :
    IsDocument text.toList elements := by
  obtain ⟨body, declared, read⟩ := Option.bind_eq_some_iff.mp read
  obtain ⟨last, ran, read⟩ := Option.bind_eq_some_iff.mp read
  obtain ⟨ended, same⟩ := Option.ite_none_right_eq_some.mp read
  obtain rfl := Option.some.inj same
  obtain ⟨elements, demanded, found⟩ := Reader.demands_of_run ran ended
  obtain ⟨before, root, rfl, blank, inner, after, others, element, ⟨rfl, spaces⟩, rfl⟩ := demanded rfl
  refine ⟨before, root, after, ?_, blank, ?_, spaces⟩
  · exact (List.isPrefixOf?_eq_some_iff_append_eq.mp declared).symm
  · simpa [found, Reader.start] using element

/-- Tags that are open or cross each other, two roots, two attributes of one name and open references are refused. -/
example : ["<a>", "<a></b>", "<a><b></a></b>", "<a/><a/>", "<a b=\"1\" b=\"2\"/>", "<a b=\"1/>", "<a>&amp</a>"].all
    fun body => (Reader.start.run body.toList).all fun r => r.place != .epilog := by
  decide +kernel

end SheetExport.Xml
