import SheetExport.Proofs.Workbook.Documents
import SheetExport.Proofs.Workbook.Sound
import SheetExport.Proofs.Xml.Tags

/-! # Formats as they are seen

A format refers to its number format, its font, its fill and its border by numbers. `seenFormat?` follows them through
the tables of a written style sheet, with nothing known of how it was written; what it finds for the number of a style
is what the style asks for. Number formats that are not built in are found in their table by their ids.
-/

namespace SheetExport

open Xml

/-- A format with what it refers to. -/
structure SeenFormat where
  numberFormat : Nat
  bold : Bool
  /-- The pattern of the fill. -/
  fill : Option (List Char)
  /-- The styles of the border, on all sides. -/
  sides : List (Option (List Char))
  /-- The horizontal and the vertical alignment. -/
  alignment : List (Option (List Char))
  deriving DecidableEq, Repr

namespace SeenFormat

/-- What a style asks for, with the id of its number format. -/
def ofStyle (style : Style) (numberFormat : Nat) : SeenFormat where
  numberFormat
  bold := style.header
  fill := some (if style.header then "solid" else "none").toList
  sides := List.replicate 4 (if style.border then some "thin".toList else none)
  alignment := List.replicate 2 (if style.header then some "center".toList else none)

end SeenFormat

namespace StyleSheet

def fontPath : Path := "font".toList :: "fonts".toList :: rootPath

def fillPath : Path := "fill".toList :: "fills".toList :: rootPath

def borderPath : Path := "border".toList :: "borders".toList :: rootPath

/-! ## Reading -/

/-- The value of an attribute of the first element with a path. -/
def attributeAt (path : Path) (name : String) (tags : List Tag) : Option (List Char) :=
  (tags.find? fun t => t.path = path).bind fun t => t.value? name

def isBold (font : List Tag) : Bool := font.any fun t => t.path = "b".toList :: fontPath

def fillOf (fill : List Tag) : Option (List Char) := attributeAt ("patternFill".toList :: fillPath) "patternType" fill

def sidesOf (border : List Tag) : List (Option (List Char)) :=
  ["left", "right", "top", "bottom"].map fun side => attributeAt (side.toList :: borderPath) "style" border

def alignmentOf (format : List Tag) : List (Option (List Char)) :=
  ["horizontal", "vertical"].map fun name => attributeAt alignmentPath name format

/-- The format with a number, among the tags of a style sheet. -/
def seenFormat? (tags : List Tag) (number : Nat) : Option SeenFormat := do
  let format ← (elementsAt formatPath tags)[number]?
  let own ← format.head?
  let font ← (elementsAt fontPath tags)[← own.number? "fontId"]?
  let fill ← (elementsAt fillPath tags)[← own.number? "fillId"]?
  let border ← (elementsAt borderPath tags)[← own.number? "borderId"]?
  some ⟨← own.number? "numFmtId", isBold font, fillOf fill, sidesOf border, alignmentOf format⟩

/-- The number of formats that the tags of a style sheet claim to be there. -/
def formatCount? (tags : List Tag) : Option Nat := (tags.find? fun t => t.path = formatsPath).bind (·.number? "count")

/-- A number format with its id, as its tag is written. -/
def numberFormat? (t : Tag) : Option (Nat × List Char) := do
  if t.path = patternPath then some (← t.number? "numFmtId", ← t.value? "formatCode") else none

def numberFormats (tags : List Tag) : List (Nat × List Char) := tags.filterMap numberFormat?

/-! ## Number formats -/

def patternTag (id : Nat) (pattern : String) : Tag :=
  ⟨patternPath, [("numFmtId".toList, (toString (id : Int)).toList), ("formatCode".toList, (escape pattern).toList)]⟩

theorem patternTokens_tell (patterns : List String) (id : Nat) :
    Tells (patternTokens patterns id) patternsPath (patterns.mapIdx fun i pattern => patternTag (id + i) pattern) := by
  induction patterns generalizing id with
  | nil => exact .nil _
  | cons pattern patterns ih =>
      have first : Tells [.startTag "numFmt", .intAttr "numFmtId" id, .attr "formatCode" pattern, .closeEmpty]
        patternsPath [patternTag id pattern] := fun _ _ => rfl
      rw [List.mapIdx_cons]
      have rest := ih (id + 1)
      simp only [Nat.add_assoc, Nat.add_comm 1] at rest
      exact first.append rest

def patternsTags (patterns : List String) : List Tag :=
  if patterns.isEmpty then []
  else ⟨patternsPath, [("count".toList, (toString (patterns.length : Int)).toList)]⟩ ::
    patterns.mapIdx fun i pattern => patternTag (firstCustomFormat + i) pattern

theorem patterns_tell (patterns : List String) :
    Tells (if patterns.isEmpty then []
      else [.startTag "numFmts", .intAttr "count" patterns.length, .close] ++
        patternTokens patterns firstCustomFormat ++ [.endTag "numFmts"]) rootPath (patternsTags patterns) := by
  rw [patternsTags]
  cases patterns.isEmpty with
  | true => exact .nil _
  | false => exact Tells.element (fun _ _ => rfl) rfl (patternTokens_tell patterns firstCustomFormat)

theorem numberFormat?_patternTag (id : Nat) (pattern : String) :
    numberFormat? (patternTag id pattern) = some (id, (escape pattern).toList) := by
  have number : (patternTag id pattern).number? "numFmtId" = some id := readDigits?_toString id
  have code : (patternTag id pattern).value? "formatCode" = some (escape pattern).toList := rfl
  have here : (patternTag id pattern).path = patternPath := rfl
  rw [numberFormat?, if_pos here, number, code]
  rfl

/-! ## Formats -/

/-- An attribute that is written only where it is set. -/
def flagAttribute (name : String) (isSet : Bool) : List (Name × List Char) :=
  if isSet then [(name.toList, "1".toList)] else []

/-- The attributes that all formats have. -/
def ownAttributes (f : CellFormat) : List (Name × List Char) :=
  [("numFmtId".toList, (toString (f.numberFormat : Int)).toList), ("fontId".toList, (toString (f.font : Int)).toList),
    ("fillId".toList, (toString (f.fill : Int)).toList), ("borderId".toList, (toString (f.border : Int)).toList),
    ("xfId".toList, "0".toList)]

def flagAttributes (hasNumber hasFont hasFill hasBorder : Bool) : List (Name × List Char) :=
  flagAttribute "applyNumberFormat" hasNumber ++ flagAttribute "applyFont" hasFont ++
    flagAttribute "applyFill" hasFill ++ flagAttribute "applyBorder" hasBorder

def formatTag (f : CellFormat) : Tag :=
  ⟨formatPath, ownAttributes f ++ flagAttributes (f.numberFormat ≠ 0) (f.font ≠ 0) (f.fill ≠ 0) (f.border ≠ 0) ++
    flagAttribute "applyAlignment" f.centred⟩

def alignmentTag : Tag :=
  ⟨alignmentPath, [("horizontal".toList, "center".toList), ("vertical".toList, "center".toList)]⟩

def alignmentTags (f : CellFormat) : List Tag := if f.centred then [alignmentTag] else []

theorem alignment_tell :
    Tells [.raw "<alignment horizontal=\"center\" vertical=\"center\"/>"] formatPath [alignmentTag] :=
  Tells.raw rfl (by decide +kernel)

open Xml.TagReader

/-- The attributes that some formats have are not written twice. -/
theorem flagTokens_noted (found : List Path) (attributes : List (Name × List Char)) (told : List Tag)
    (hasNumber hasFont hasFill hasBorder : Bool) :
    ∃ known, known.contains "applyAlignment".toList = false ∧
      takeAll ⟨⟨.quoted "xf".toList (["xfId", "borderId", "fillId", "fontId", "numFmtId"].map String.toList),
          formatsPath, found⟩, attributes, told⟩
        (flagTokens "applyNumberFormat" hasNumber ++ flagTokens "applyFont" hasFont ++
          flagTokens "applyFill" hasFill ++ flagTokens "applyBorder" hasBorder) =
      some ⟨⟨.quoted "xf".toList known, formatsPath, found⟩,
        (flagAttributes hasNumber hasFont hasFill hasBorder).reverse ++ attributes, told⟩ := by
  cases hasNumber <;> cases hasFont <;> cases hasFill <;> cases hasBorder <;> exact ⟨_, rfl, rfl⟩

theorem formatTokens_tell (f : CellFormat) : Tells (formatTokens f) formatsPath (formatTag f :: alignmentTags f) := by
  intro found told
  obtain ⟨known, fresh, flags⟩ := flagTokens_noted found (ownAttributes f).reverse told (f.numberFormat ≠ 0)
    (f.font ≠ 0) (f.fill ≠ 0) (f.border ≠ 0)
  have opens : takeAll ⟨⟨.content, formatsPath, found⟩, [], told⟩ [.startTag "xf", .intAttr "numFmtId" f.numberFormat,
      .intAttr "fontId" f.font, .intAttr "fillId" f.fill, .intAttr "borderId" f.border, .intAttr "xfId" 0] =
      some ⟨⟨.quoted "xf".toList (["xfId", "borderId", "fillId", "fontId", "numFmtId"].map String.toList),
        formatsPath, found⟩, (ownAttributes f).reverse, told⟩ := rfl
  rw [formatTokens, formatTag, alignmentTags]
  simp only [List.append_assoc, takeAll_append_of opens]
  rw [← List.append_assoc, ← List.append_assoc, ← List.append_assoc, takeAll_append_of flags, ← List.reverse_append]
  cases f.centred with
  | false =>
      have unset : flagAttribute "applyAlignment" false = [] := rfl
      have within : formatsPath ≠ [] := List.cons_ne_nil _ _
      rw [if_neg Bool.false_ne_true, takeAll_cons_of (take_closeEmpty within), unset, List.append_nil]
      rfl
  | true =>
      rw [if_pos rfl, takeAll_cons_of (take_intAttr rfl fresh 1), takeAll_cons_of take_close, ← List.append_assoc]
      exact takeAll_append_of (alignment_tell _ _) [.endTag "xf"]

/-! ## Fonts, fills and borders -/

/-- The tables that formats refer to, as they are seen. -/
structure IsLook (tags : List Tag) : Prop where
  bold : (elementsAt fontPath tags).map isBold = [false, true]
  fills : (elementsAt fillPath tags).map fillOf = [some "none".toList, some "gray125".toList, some "solid".toList]
  sides : (elementsAt borderPath tags).map sidesOf =
    [List.replicate 4 none, List.replicate 4 (some "thin".toList)]
  /-- No tag of theirs is taken for a number format or a format. -/
  apart : ∀ t ∈ tags, ¬ formatsPath <:+ t.path ∧ ¬ patternsPath <:+ t.path

theorem lookTables_tell : ∃ look, Tells [.raw lookTables] rootPath look ∧ IsLook look := by
  obtain ⟨look, told, bold, fills, sides, apart⟩ : ∃ look, Tells [.raw lookTables] rootPath look ∧
      (elementsAt fontPath look).map isBold = [false, true] ∧
      (elementsAt fillPath look).map fillOf = [some "none".toList, some "gray125".toList, some "solid".toList] ∧
      (elementsAt borderPath look).map sidesOf = [List.replicate 4 none, List.replicate 4 (some "thin".toList)] ∧
      ∀ t ∈ look, ¬ formatsPath <:+ t.path ∧ ¬ patternsPath <:+ t.path :=
    Tells.exists_raw (toList_join (by repeat' constructor)) (by decide +kernel)
  exact ⟨look, told, bold, fills, sides, apart⟩

/-! ## The style sheet -/

/-- The tags of formats, each with that of its alignment. -/
def entryTags (e : Style × CellFormat) : List Tag := formatTag e.2 :: alignmentTags e.2

def formatsTag (s : StyleSheet) : Tag := ⟨formatsPath, [("count".toList, (toString (s.size : Int)).toList)]⟩

theorem formats_tell (s : StyleSheet) :
    Tells ([.startTag "cellXfs", .intAttr "count" s.size, .close] ++ s.entries.flatMap (fun e => formatTokens e.2) ++
      [.endTag "cellXfs"]) rootPath (formatsTag s :: s.entries.flatMap entryTags) := by
  have each : ∀ e : Style × CellFormat, Tells (formatTokens e.2) formatsPath (entryTags e) :=
    fun e => formatTokens_tell e.2
  exact Tells.element (fun _ _ => rfl) rfl (Tells.flatMap each s.entries)

/-- Paths of tags that are neither number formats nor formats. -/
def otherPaths : List Path := [fontPath, fillPath, borderPath]

theorem path_of_mem_patternsTags {patterns : List String} {t : Tag} (inside : t ∈ patternsTags patterns) :
    t.path = patternsPath ∨ t.path = patternPath := by
  rw [patternsTags] at inside
  split at inside
  · cases inside
  · cases List.mem_cons.mp inside with
    | inl own => exact .inl (own ▸ rfl)
    | inr inner =>
        obtain ⟨i, _, rfl⟩ := List.mem_mapIdx.mp inner
        exact .inr rfl

theorem patternsTags_apart (patterns : List String) :
    ∀ t ∈ patternsTags patterns, ∀ path ∈ formatsPath :: otherPaths, ¬ path <:+ t.path := by
  intro t inside
  rcases path_of_mem_patternsTags inside with same | same <;> rw [same] <;> decide

theorem entryTags_apart (entries : List (Style × CellFormat)) :
    ∀ t ∈ entries.flatMap entryTags, ∀ path ∈ patternsPath :: otherPaths, ¬ path <:+ t.path := by
  intro t inside
  obtain ⟨e, _, there⟩ := List.mem_flatMap.mp inside
  have paths : t.path = formatPath ∨ t.path = alignmentPath := by
    rw [entryTags, alignmentTags] at there
    cases List.mem_cons.mp there with
    | inl own => exact .inl (own ▸ rfl)
    | inr aligned =>
        split at aligned
        · exact .inr (List.mem_singleton.mp aligned ▸ rfl)
        · cases aligned
  rcases paths with same | same <;> rw [same] <;> decide

theorem cellStyles_tell : ∃ names,
    Tells [.raw "<cellStyles count=\"1\"><cellStyle name=\"Normal\" xfId=\"0\" builtinId=\"0\"/></cellStyles>"]
      rootPath names ∧ ∀ t ∈ names, ∀ path ∈ formatsPath :: patternsPath :: otherPaths, ¬ path <:+ t.path :=
  Tells.exists_raw rfl (by decide +kernel)

/-- What is read of a written style sheet. -/
structure IsRead (s : StyleSheet) (tags : List Tag) : Prop where
  count : formatCount? tags = some s.size
  formats : elementsAt formatPath tags = s.entries.map entryTags
  fonts : (elementsAt fontPath tags).map isBold = [false, true]
  fills : (elementsAt fillPath tags).map fillOf = [some "none".toList, some "gray125".toList, some "solid".toList]
  borders : (elementsAt borderPath tags).map sidesOf =
    [List.replicate 4 none, List.replicate 4 (some "thin".toList)]
  table : numberFormats tags =
    s.patterns.mapIdx fun i pattern => (firstCustomFormat + i, (escape pattern).toList)

/-- Number formats are looked for in their table alone. -/
theorem numberFormats_filter (tags : List Tag) :
    numberFormats (tags.filter fun t => patternsPath <:+ t.path) = numberFormats tags := by
  rw [numberFormats, List.filterMap_filter]
  refine List.filterMap_congr fun t _ => ?_
  split
  · rfl
  · next apart =>
      have elsewhere : t.path ≠ patternPath := fun same => apart (decide_eq_true (same ▸ List.suffix_cons _ _))
      exact (if_neg elsewhere).symm

theorem numberFormats_patternsTags (patterns : List String) :
    numberFormats (patternsTags patterns) =
      patterns.mapIdx fun i pattern => (firstCustomFormat + i, (escape pattern).toList) := by
  have each (id : Nat) : (patterns.mapIdx fun i pattern => patternTag (id + i) pattern).filterMap numberFormat? =
      patterns.mapIdx fun i pattern => (id + i, (escape pattern).toList) := by
    induction patterns generalizing id with
    | nil => rfl
    | cons pattern patterns ih =>
        rw [List.mapIdx_cons, List.mapIdx_cons, List.filterMap_cons, numberFormat?_patternTag]
        have rest := ih (id + 1)
        simp only [Nat.add_assoc, Nat.add_comm 1] at rest
        exact congrArg _ rest
  have own : numberFormat? ⟨patternsPath, [("count".toList, (toString (patterns.length : Int)).toList)]⟩ = none :=
    if_neg (show patternsPath ≠ patternPath by decide)
  rw [patternsTags]
  cases patterns with
  | nil => rfl
  | cons pattern patterns =>
      rw [List.isEmpty_cons, if_neg Bool.false_ne_true, numberFormats, List.filterMap_cons, own]
      exact each firstCustomFormat

theorem elementsAt_entries (entries : List (Style × CellFormat)) :
    elementsAt formatPath (entries.flatMap entryTags) = entries.map entryTags := by
  refine elementsAt_flatMap (fun e : Style × CellFormat => formatTag e.2) (fun e => alignmentTags e.2) entries
    (fun _ => rfl) fun e t inside => ?_
  rw [alignmentTags] at inside
  split at inside
  · obtain rfl := List.mem_singleton.mp inside
    decide
  · cases inside

/-- The tags of a style sheet, given those of its fixed parts. -/
def tagsWith (s : StyleSheet) (root : Tag) (look names : List Tag) : List Tag :=
  root :: (patternsTags s.patterns ++ look ++ formatsTag s :: s.entries.flatMap entryTags ++ names)

section Reading

variable {root : Tag} {look names : List Tag}

/-- The fonts, the fills and the borders are found in their tables alone. -/
theorem elementsAt_otherPaths (s : StyleSheet) (isRoot : root.path = rootPath)
    (other : ∀ t ∈ names, ∀ path ∈ formatsPath :: patternsPath :: otherPaths, ¬ path <:+ t.path) :
    ∀ path ∈ otherPaths, elementsAt path (tagsWith s root look names) = elementsAt path look := by
  intro path listed
  have shape : tagsWith s root look names =
      (root :: patternsTags s.patterns) ++ (look ++ (formatsTag s :: (s.entries.flatMap entryTags ++ names))) := by
    simp [tagsWith]
  have atRoot : ∀ path ∈ otherPaths, ¬ path <:+ rootPath ∧ ¬ path <:+ formatsPath := by decide
  rw [shape]
  refine elementsAt_between (fun t inside => ?_) (fun t inside => ?_) look
  · cases List.mem_cons.mp inside with
    | inl own => rw [own, isRoot]; exact (atRoot path listed).1
    | inr inner => exact patternsTags_apart s.patterns t inner path (List.mem_cons_of_mem _ listed)
  · cases List.mem_cons.mp inside with
    | inl own => rw [own]; exact (atRoot path listed).2
    | inr inner =>
        cases List.mem_append.mp inner with
        | inl format => exact entryTags_apart s.entries t format path (List.mem_cons_of_mem _ listed)
        | inr last => exact other t last path (List.mem_cons_of_mem _ (List.mem_cons_of_mem _ listed))

/-- Before the formats nothing is taken for one of them. -/
theorem apart_before_formats (s : StyleSheet) (isRoot : root.path = rootPath) (isLook : IsLook look) :
    ∀ t ∈ root :: patternsTags s.patterns ++ look, ¬ formatsPath <:+ t.path := by
  intro t inside
  cases List.mem_append.mp inside with
  | inl head =>
      cases List.mem_cons.mp head with
      | inl own => rw [own, isRoot]; decide
      | inr inner => exact patternsTags_apart s.patterns t inner formatsPath List.mem_cons_self
  | inr look => exact (isLook.apart t look).1

theorem formatCount?_tagsWith (s : StyleSheet) (isRoot : root.path = rootPath) (isLook : IsLook look) :
    formatCount? (tagsWith s root look names) = some s.size := by
  have shape : tagsWith s root look names =
      (root :: patternsTags s.patterns ++ look) ++ formatsTag s :: (s.entries.flatMap entryTags ++ names) := by
    simp [tagsWith]
  have earlier : (root :: patternsTags s.patterns ++ look).find? (fun t => t.path = formatsPath) = none := by
    refine List.find?_eq_none.mpr fun t inside same => apart_before_formats s isRoot isLook t inside ?_
    have here : t.path = formatsPath := of_decide_eq_true same
    exact here ▸ List.suffix_refl _
  rw [formatCount?, shape, List.find?_append, earlier, Option.none_or, List.find?_cons_of_pos (by simp [formatsTag])]
  exact readDigits?_toString s.size

theorem formats_tagsWith (s : StyleSheet) (isRoot : root.path = rootPath) (isLook : IsLook look)
    (other : ∀ t ∈ names, ¬ formatsPath <:+ t.path) :
    elementsAt formatPath (tagsWith s root look names) = s.entries.map entryTags := by
  have shape : tagsWith s root look names =
      (root :: patternsTags s.patterns ++ look ++ [formatsTag s]) ++ (s.entries.flatMap entryTags ++ names) := by
    simp [tagsWith]
  have outer : ∀ t : Tag, ¬ formatsPath <:+ t.path → ¬ formatPath <:+ t.path := fun t apart inside =>
    apart ((List.suffix_cons _ _).trans inside)
  rw [shape, elementsAt_between (fun t inside => ?_) (fun t inside => outer t (other t inside)), elementsAt_entries]
  cases List.mem_append.mp inside with
  | inl before => exact outer t (apart_before_formats s isRoot isLook t before)
  | inr own => rw [List.mem_singleton.mp own]; exact (show ¬ formatPath <:+ formatsPath by decide)

/-- The table of number formats is made of its own tags. -/
theorem filter_tagsWith (s : StyleSheet) (isRoot : root.path = rootPath) (isLook : IsLook look)
    (other : ∀ t ∈ names, ¬ patternsPath <:+ t.path) :
    (tagsWith s root look names).filter (fun t => patternsPath <:+ t.path) = patternsTags s.patterns := by
  have own : ∀ t ∈ patternsTags s.patterns, patternsPath <:+ t.path := by
    intro t inside
    rcases path_of_mem_patternsTags inside with same | same
    · exact same ▸ List.suffix_refl _
    · exact same ▸ List.suffix_cons _ _
  have none {tags : List Tag} (apart : ∀ t ∈ tags, ¬ patternsPath <:+ t.path) :
      tags.filter (fun t => patternsPath <:+ t.path) = [] :=
    List.filter_eq_nil_iff.mpr fun t inside => by simpa using apart t inside
  have head : ¬ patternsPath <:+ root.path := by rw [isRoot]; decide
  have formats : ¬ patternsPath <:+ (formatsTag s).path := show ¬ patternsPath <:+ formatsPath by decide
  rw [tagsWith, List.filter_cons_of_neg (by simpa using head)]
  simp only [List.append_assoc, List.cons_append, List.filter_append]
  rw [none fun t inside => (isLook.apart t inside).2, List.filter_cons_of_neg (by simpa using formats),
    List.filter_append, none fun t inside => entryTags_apart s.entries t inside patternsPath List.mem_cons_self,
    none other, List.append_nil, List.append_nil, List.append_nil]
  exact List.filter_eq_self.mpr fun t inside => decide_eq_true (own t inside)

theorem numberFormats_tagsWith (s : StyleSheet) (isRoot : root.path = rootPath) (isLook : IsLook look)
    (other : ∀ t ∈ names, ¬ patternsPath <:+ t.path) :
    numberFormats (tagsWith s root look names) =
      s.patterns.mapIdx fun i pattern => (firstCustomFormat + i, (escape pattern).toList) := by
  rw [← numberFormats_filter, filter_tagsWith s isRoot isLook other, numberFormats_patternsTags]

theorem isRead_tagsWith (s : StyleSheet) (isRoot : root.path = rootPath) (isLook : IsLook look)
    (other : ∀ t ∈ names, ∀ path ∈ formatsPath :: patternsPath :: otherPaths, ¬ path <:+ t.path) :
    s.IsRead (tagsWith s root look names) where
  count := formatCount?_tagsWith s isRoot isLook
  formats := formats_tagsWith s isRoot isLook fun t inside => other t inside formatsPath (by decide)
  fonts := by rw [elementsAt_otherPaths s isRoot other fontPath (by decide), isLook.bold]
  fills := by rw [elementsAt_otherPaths s isRoot other fillPath (by decide), isLook.fills]
  borders := by rw [elementsAt_otherPaths s isRoot other borderPath (by decide), isLook.sides]
  table := numberFormats_tagsWith s isRoot isLook fun t inside => other t inside patternsPath (by decide)

end Reading

def rootAttributes : List (Name × List Char) :=
  [("xmlns".toList, (escape "http://schemas.openxmlformats.org/spreadsheetml/2006/main").toList)]

/-- A written style sheet is a document with the tags of its number formats and its formats between fixed ones. -/
theorem tags?_tokens (s : StyleSheet) : ∃ root look names, tags? (render s.tokens) = some (tagsWith s root look names) ∧
    root.path = rootPath ∧ IsLook look ∧
      ∀ t ∈ names, ∀ path ∈ formatsPath :: patternsPath :: otherPaths, ¬ path <:+ t.path := by
  obtain ⟨look, looks, isLook⟩ := lookTables_tell
  obtain ⟨names, named, other⟩ := cellStyles_tell
  have opens : TagReader.start.takeAll [.startTag "styleSheet",
      .attr "xmlns" "http://schemas.openxmlformats.org/spreadsheetml/2006/main", .close] =
      some ⟨⟨.content, rootPath, [rootPath]⟩, [], [⟨rootPath, rootAttributes⟩]⟩ := rfl
  have document : tags? _ = some (tagsWith s ⟨rootPath, rootAttributes⟩ look names) :=
    tags?_document toList_declaration opens rfl
      ((((patterns_tell s.patterns).append looks).append (formats_tell s)).append named)
  refine ⟨⟨rootPath, rootAttributes⟩, look, names, ?_, rfl, isLook, other⟩
  rw [tokens, ← document]
  simp only [List.append_assoc, List.cons_append, List.nil_append]

/-- In a written style sheet the tables and all formats are found. -/
theorem tags?_styles (s : StyleSheet) : ∃ tags, tags? (render s.tokens) = some tags ∧ s.IsRead tags := by
  obtain ⟨root, look, names, document, isRoot, isLook, other⟩ := tags?_tokens s
  exact ⟨_, document, isRead_tagsWith s isRoot isLook other⟩

/-! ## Formats that are seen -/

theorem number?_formatTag (f : CellFormat) :
    (formatTag f).number? "numFmtId" = some f.numberFormat ∧ (formatTag f).number? "fontId" = some f.font ∧
      (formatTag f).number? "fillId" = some f.fill ∧ (formatTag f).number? "borderId" = some f.border :=
  ⟨readDigits?_toString f.numberFormat, readDigits?_toString f.font, readDigits?_toString f.fill,
    readDigits?_toString f.border⟩

theorem exists_getElem?_of_map {β γ : Type} {f : β → γ} {bs : List β} {cs : List γ} (same : bs.map f = cs) {i : Nat}
    {c : γ} (there : cs[i]? = some c) : ∃ b, bs[i]? = some b ∧ f b = c := by
  rw [← same, List.getElem?_map] at there
  exact Option.map_eq_some_iff.mp there

theorem alignmentOf_entryTags (style : Style) (id : Nat) :
    alignmentOf (entryTags (style, formatOf style id)) =
      List.replicate 2 (if style.header then some "center".toList else none) := by
  obtain ⟨pattern, header, border⟩ := style
  cases header <;> rfl

/-- The format with the number of a style is seen as the style asks for. -/
theorem IsRead.seenFormat? {s : StyleSheet} {tags : List Tag} (h : s.IsRead tags) {number id : Nat} {style : Style}
    (entry : s.entries[number]? = some (style, formatOf style id)) :
    seenFormat? tags number = some (.ofStyle style id) := by
  obtain ⟨ownNumber, ownFont, ownFill, ownBorder⟩ := number?_formatTag (formatOf style id)
  have alignment := alignmentOf_entryTags style id
  have format : (elementsAt formatPath tags)[number]? = some (entryTags (style, formatOf style id)) := by
    rw [h.formats, List.getElem?_map, entry]
    rfl
  obtain ⟨pattern, header, border⟩ := style
  obtain ⟨font, fontThere, bold⟩ := exists_getElem?_of_map h.fonts
    (i := (formatOf ⟨pattern, header, border⟩ id).font) (c := header) (by cases header <;> rfl)
  obtain ⟨fill, fillThere, filled⟩ := exists_getElem?_of_map h.fills
    (i := (formatOf ⟨pattern, header, border⟩ id).fill) (c := some (if header then "solid" else "none").toList)
    (by cases header <;> rfl)
  obtain ⟨edge, edgeThere, sides⟩ := exists_getElem?_of_map h.borders
    (i := (formatOf ⟨pattern, header, border⟩ id).border)
    (c := List.replicate 4 (if border then some "thin".toList else none)) (by cases border <;> rfl)
  have own : (entryTags (⟨pattern, header, border⟩, formatOf ⟨pattern, header, border⟩ id)).head? =
      some (formatTag (formatOf ⟨pattern, header, border⟩ id)) := rfl
  simp only [StyleSheet.seenFormat?, format, own, ownNumber, ownFont, ownFill, ownBorder, fontThere, fillThere,
    edgeThere, Option.bind_eq_bind, Option.bind_some, bold, filled, sides, alignment]
  rfl

end StyleSheet

end SheetExport
