import Mathlib.Data.List.Induction
import Mathlib.Data.List.Nodup
import SheetExport.Proofs.Workbook.Formats

/-! # Registered styles

Cells that were written long ago hold nothing but the number of their style. For any styles that are registered one
after another, the numbers that they were given on the way are places in the style sheet in the end: in its list of
styles without repetitions, and among the formats of its written form. Its custom number formats are those that the
styles ask for, without repetitions and without the ones that are built in.
-/

namespace SheetExport

/-! ## Values where they were first seen -/

section FirstSeen

variable {α : Type} [DecidableEq α]

/-- A value that comes last is one more only if it was not there before. -/
theorem eraseDups_concat (as : List α) (a : α) :
    (as ++ [a]).eraseDups = if a ∈ as then as.eraseDups else as.eraseDups ++ [a] := by
  rw [List.eraseDups_append]
  split
  · next seen => simp [List.removeAll, seen]
  · next new => simp [List.removeAll, new, List.eraseDups_cons]

theorem nodup_eraseDups (as : List α) : as.eraseDups.Nodup := by
  induction as using List.reverseRecOn with
  | nil => exact List.nodup_nil
  | append_singleton as a ih =>
      rw [eraseDups_concat]
      split
      · exact ih
      · next new =>
          have fresh : a ∉ as.eraseDups := fun inside => new (List.mem_eraseDups.mp inside)
          rw [← List.concat_eq_append]
          exact (List.nodup_concat _ _).mpr ⟨fresh, ih⟩

end FirstSeen

namespace StyleSheet

open Xml

variable {s : StyleSheet} {style : Style} {styles : List Style}

/-- The styles in the order of their numbers. -/
def listed (s : StyleSheet) : List Style := s.entries.map Prod.fst

/-- The numbers that styles are given when they are registered one after another. -/
def registerEach (s : StyleSheet) : List Style → List Nat
  | [] => []
  | style :: styles => (s.register style).1 :: (s.register style).2.registerEach styles

/-- The number formats that styles ask for and that are not built in, each where it was first asked for. -/
def customFormats (styles : List Style) : List String :=
  ((styles.filterMap Style.pattern).filter fun p => (builtInFormats.lookup p).isNone).eraseDups

/-! ## Numbers -/

theorem number?_eq (s : StyleSheet) (style : Style) : s.number? style = s.listed.idxOf? style := by
  rw [number?, listed, List.idxOf?, List.findIdx?_map]
  rfl

theorem number?_eq_none_iff : s.number? style = none ↔ style ∉ s.listed := by
  rw [number?_eq, List.idxOf?_eq_none_iff]

theorem mem_listed_of_number? {n : Nat} (number : s.number? style = some n) : style ∈ s.listed := by
  obtain ⟨f, entry⟩ := entry_of_number? number
  exact List.mem_map_of_mem (List.mem_of_getElem? entry)

theorem numberOf_eq (known : style ∈ s.listed) : s.numberOf style = s.listed.idxOf style := by
  cases number : s.number? style with
  | none => exact absurd known (number?_eq_none_iff.mp number)
  | some n => rw [numberOf, number, List.idxOf_eq_getD_idxOf?, ← number?_eq, number, Option.getD_some, Option.getD_some]

/-- The numbers that were given on the way are those of the style sheet in the end. -/
theorem registerEach_eq (s : StyleSheet) (styles : List Style) :
    s.registerEach styles = styles.map (s.registerAll styles).numberOf := by
  induction styles generalizing s with
  | nil => rfl
  | cons style styles ih =>
      rw [registerEach, ih, List.map_cons, numberOf_registerAll]
      rfl

/-! ## One more style -/

theorem listed_register (s : StyleSheet) (style : Style) :
    (s.register style).2.listed = if style ∈ s.listed then s.listed else s.listed ++ [style] := by
  cases number : s.number? style with
  | some n => rw [register_known number, if_pos (mem_listed_of_number? number)]
  | none =>
      rw [register_fresh number, if_neg (number?_eq_none_iff.mp number)]
      exact List.map_append

theorem patterns_register (s : StyleSheet) (style : Style) :
    (s.register style).2.patterns =
      if style ∈ s.listed then s.patterns else (formatIdOf s.patterns style.pattern).2 := by
  cases number : s.number? style with
  | some n => rw [register_known number, if_pos (mem_listed_of_number? number)]
  | none => rw [register_fresh number, if_neg (number?_eq_none_iff.mp number)]

theorem mem_customFormats {p : String} :
    p ∈ customFormats styles ↔ (∃ style ∈ styles, style.pattern = some p) ∧ builtInFormats.lookup p = none := by
  rw [customFormats, List.mem_eraseDups, List.mem_filter, List.mem_filterMap, Option.isNone_iff_eq_none]

/-- One more style changes the custom number formats as looking for its number format does. -/
theorem customFormats_concat (styles : List Style) (style : Style) :
    customFormats (styles ++ [style]) = (formatIdOf (customFormats styles) style.pattern).2 := by
  rw [customFormats, List.filterMap_append, List.filter_append]
  cases asked : style.pattern with
  | none => simp [asked, formatIdOf, customFormats]
  | some p =>
      rw [formatIdOf, formatId]
      cases builtIn : builtInFormats.lookup p with
      | some id => simp [asked, builtIn, customFormats]
      | none =>
          have last : ([style].filterMap Style.pattern).filter (fun p => (builtInFormats.lookup p).isNone) = [p] := by
            simp [asked, builtIn]
          rw [last, eraseDups_concat]
          cases place : (customFormats styles).idxOf? p with
          | some i =>
              obtain ⟨inside, rfl, -⟩ := List.idxOf?_eq_some_iff.mp place
              exact if_pos (List.mem_eraseDups.mp (List.getElem_mem inside))
          | none => exact if_neg fun inside => List.idxOf?_eq_none_iff.mp place (List.mem_eraseDups.mpr inside)

/-- The number format of a style that was registered before is not a new one. -/
theorem formatIdOf_registered (seen : style ∈ .plain :: styles) :
    (formatIdOf (customFormats styles) style.pattern).2 = customFormats styles := by
  obtain ⟨-, grows⟩ := formatIdOf_denotes (customFormats styles) style.pattern
  generalize (formatIdOf (customFormats styles) style.pattern).2 = patterns at grows ⊢
  cases grows with
  | same => rfl
  | one asked unknown fresh =>
      cases List.mem_cons.mp seen with
      | inl plain =>
          rw [plain] at asked
          cases asked
      | inr before => exact absurd (mem_customFormats.mpr ⟨⟨style, before, asked⟩, unknown⟩) fresh

/-! ## All styles -/

/-- The default style comes first, and each other one where it was first registered. -/
theorem listed_registerAll (styles : List Style) :
    (initial.registerAll styles).listed = (.plain :: styles).eraseDups := by
  induction styles using List.reverseRecOn with
  | nil => rfl
  | append_singleton before style ih =>
      rw [registerAll_append, ← List.cons_append, eraseDups_concat]
      refine (listed_register _ style).trans ?_
      simp only [ih, List.mem_eraseDups]

theorem mem_listed_registerAll : style ∈ (initial.registerAll styles).listed ↔ style ∈ .plain :: styles := by
  rw [listed_registerAll, List.mem_eraseDups]

theorem patterns_registerAll (styles : List Style) : (initial.registerAll styles).patterns = customFormats styles := by
  induction styles using List.reverseRecOn with
  | nil => rfl
  | append_singleton before style ih =>
      rw [registerAll_append, customFormats_concat]
      refine (patterns_register _ style).trans ?_
      rw [ih]
      split
      · next known => rw [formatIdOf_registered (mem_listed_registerAll.mp known)]
      · rfl

theorem numberOf_registerAll_initial (asked : style ∈ .plain :: styles) :
    (initial.registerAll styles).numberOf style = (Style.plain :: styles).eraseDups.idxOf style := by
  rw [numberOf_eq (mem_listed_registerAll.mpr asked), listed_registerAll]

theorem getElem?_registerEach (s : StyleSheet) (styles : List Style) (i : Nat) :
    (s.registerEach styles)[i]? = styles[i]?.map (s.registerAll styles).numberOf := by
  rw [registerEach_eq, List.getElem?_map]

/-- No two styles have one number. -/
theorem numberOf_inj {other : Style} (asked : style ∈ styles) (also : other ∈ styles)
    (same : (initial.registerAll styles).numberOf style = (initial.registerAll styles).numberOf other) :
    style = other := by
  rw [numberOf_registerAll_initial (List.mem_cons_of_mem _ asked),
    numberOf_registerAll_initial (List.mem_cons_of_mem _ also)] at same
  exact (List.idxOf_inj (List.mem_eraseDups.mpr (List.mem_cons_of_mem _ asked))).mp same

theorem lt_size_registerAll_iff (styles : List Style) (n : Nat) :
    n < (initial.registerAll styles).size ↔ n = 0 ∨ n ∈ initial.registerEach styles := by
  have size : (initial.registerAll styles).size = (Style.plain :: styles).eraseDups.length := by
    rw [← listed_registerAll, listed, List.length_map, StyleSheet.size]
  have first : (Style.plain :: styles).eraseDups.idxOf .plain = 0 := by
    rw [List.eraseDups_cons, List.idxOf_cons_self]
  have placed {style : Style} (asked : style ∈ .plain :: styles) :
      (Style.plain :: styles).eraseDups.idxOf style < (Style.plain :: styles).eraseDups.length :=
    List.idxOf_lt_length_of_mem (List.mem_eraseDups.mpr asked)
  rw [size, registerEach_eq, List.mem_map]
  constructor
  · intro below
    have place := (nodup_eraseDups (Style.plain :: styles)).idxOf_getElem n below
    have asked := List.mem_eraseDups.mp (List.getElem_mem below)
    generalize (Style.plain :: styles).eraseDups[n] = style at place asked
    cases List.mem_cons.mp asked with
    | inl plain => exact .inl (by rw [← place, plain, first])
    | inr registered => exact .inr ⟨style, registered, (numberOf_registerAll_initial asked).trans place⟩
  · rintro (rfl | ⟨style, asked, rfl⟩)
    · have below := placed (List.mem_cons_self (a := Style.plain))
      rwa [first] at below
    · rw [numberOf_registerAll_initial (List.mem_cons_of_mem _ asked)]
      exact placed (List.mem_cons_of_mem _ asked)

/-- A style sheet and the numbers that it gave, where styles were registered one after another. -/
structure Registered (styles : List Style) (numbers : List Nat) (s : StyleSheet) : Prop where
  count : numbers.length = styles.length
  /-- The numbers of two styles are the same exactly if the styles are. -/
  same : ∀ i j : Nat, numbers[i]? = numbers[j]? ↔ styles[i]? = styles[j]?
  /-- The numbers of formats are that of the default style and those that were given, with none left out. -/
  all : ∀ n, n < s.size ↔ n = 0 ∨ n ∈ numbers
  /-- Formats stand in the order in which their styles were first registered. -/
  order : s.entries.map Prod.fst = (.plain :: styles).eraseDups
  plain : s.entries[0]? = some (.plain, formatOf .plain 0)
  /-- The number of a style leads to its format. -/
  formats : ∀ (i : Nat) (style : Style) (number : Nat), styles[i]? = some style → numbers[i]? = some number →
    ∃ id, s.entries[number]? = some (style, formatOf style id) ∧ Denotes s.patterns id style.pattern
  /-- There is one custom number format for each one that a style asked for. -/
  patterns : s.patterns = customFormats styles
  distinct : s.patterns.Nodup
  /-- Number formats that are built in are not declared. -/
  custom : ∀ p ∈ s.patterns, builtInFormats.lookup p = none

theorem registered (styles : List Style) :
    Registered styles (initial.registerEach styles) (initial.registerAll styles) where
  count := by rw [registerEach_eq, List.length_map]
  same i j := by
    rw [getElem?_registerEach, getElem?_registerEach]
    refine ⟨fun same => ?_, fun same => by rw [same]⟩
    cases first : styles[i]? with
    | none =>
        rw [first] at same
        exact (Option.map_eq_none_iff.mp same.symm).symm
    | some style =>
        rw [first] at same
        obtain ⟨other, second, number⟩ := Option.map_eq_some_iff.mp same.symm
        rw [second, numberOf_inj (List.mem_of_getElem? first) (List.mem_of_getElem? second) number.symm]
  all := lt_size_registerAll_iff styles
  order := listed_registerAll styles
  plain := (sound_initial.registerAll styles).plain
  formats i style number asked given := by
    rw [getElem?_registerEach, asked] at given
    obtain rfl : (initial.registerAll styles).numberOf style = number := Option.some.inj given
    exact (sound_initial.registerAll styles).entry_numberOf (exists_number?_registerAll (List.mem_of_getElem? asked))
  patterns := patterns_registerAll styles
  distinct := (sound_initial.registerAll styles).distinct
  custom := (sound_initial.registerAll styles).custom

/-! ## The written style sheet -/

/-- The number of number formats that the tags of a style sheet claim to be there. -/
def patternCount? (tags : List Tag) : Option Nat :=
  (tags.find? fun t => t.path = patternsPath).bind (·.number? "count")

/-- How many tags have the path of a number format. -/
def patternEntries (tags : List Tag) : Nat := tags.countP fun t => t.path = patternPath

theorem patternCount?_filter (tags : List Tag) :
    patternCount? (tags.filter fun t => patternsPath <:+ t.path) = patternCount? tags := by
  have same : (fun t : Tag => decide (decide (patternsPath <:+ t.path) = true ∧ decide (t.path = patternsPath) = true)) =
      fun t => decide (t.path = patternsPath) := by
    funext t
    have inside : t.path = patternsPath → patternsPath <:+ t.path := fun here => here ▸ List.suffix_refl _
    simpa using inside
  rw [patternCount?, List.find?_filter, same]
  rfl

theorem patternEntries_filter (tags : List Tag) :
    patternEntries (tags.filter fun t => patternsPath <:+ t.path) = patternEntries tags := by
  rw [patternEntries, List.countP_filter]
  refine List.countP_congr fun t _ => ?_
  have inside : t.path = patternPath → patternsPath <:+ t.path := fun here => here ▸ List.suffix_cons _ _
  simpa using inside

theorem patternCount?_patternsTags (patterns : List String) :
    patternCount? (patternsTags patterns) = if patterns = [] then none else some patterns.length := by
  cases patterns with
  | nil => rfl
  | cons p patterns =>
      rw [if_neg (List.cons_ne_nil p patterns)]
      exact readDigits?_toString (p :: patterns).length

theorem patternEntries_patternsTags (patterns : List String) :
    patternEntries (patternsTags patterns) = patterns.length := by
  rw [patternsTags]
  cases patterns with
  | nil => rfl
  | cons p patterns =>
      have head (attributes : List (Name × List Char)) :
          ¬ decide ((⟨patternsPath, attributes⟩ : Tag).path = patternPath) = true :=
        show ¬ decide (patternsPath = patternPath) = true by decide
      have each : ∀ t ∈ (p :: patterns).mapIdx fun i q => patternTag (firstCustomFormat + i) q,
          decide (t.path = patternPath) = true := by
        intro t inside
        obtain ⟨i, _, rfl⟩ := List.mem_mapIdx.mp inside
        exact decide_eq_true rfl
      rw [List.isEmpty_cons, if_neg Bool.false_ne_true, patternEntries, List.countP_cons, List.countP_eq_length.mpr each,
        List.length_mapIdx, if_neg (head _), Nat.add_zero]

/-- The tags of a written style sheet are those of what it knows, in the order of ids and of numbers. -/
structure Lists (s : StyleSheet) (tags : List Tag) : Prop where
  /-- Where there are no custom number formats there is no table of them. -/
  patternCount : patternCount? tags = if s.patterns = [] then none else some s.patterns.length
  patternEntries : patternEntries tags = s.patterns.length
  patterns : numberFormats tags = s.patterns.mapIdx fun i p => (firstCustomFormat + i, (escape p).toList)
  formatCount : formatCount? tags = some s.size
  formatEntries : (elementsAt formatPath tags).length = s.size
  formats : ∀ n, seenFormat? tags n = s.entries[n]?.map fun e => .ofStyle e.1 e.2.numberFormat

theorem Sound.lists (h : s.Sound) : ∃ tags, tags? (render s.tokens) = some tags ∧ s.Lists tags := by
  obtain ⟨root, look, names, document, isRoot, isLook, other⟩ := tags?_tokens s
  have read := isRead_tagsWith s isRoot isLook other
  have table := filter_tagsWith s isRoot isLook fun t inside => other t inside patternsPath (by decide)
  refine ⟨_, document, ?_, ?_, read.table, read.count, ?_, fun n => ?_⟩
  · rw [← patternCount?_filter, table, patternCount?_patternsTags]
  · rw [← patternEntries_filter, table, patternEntries_patternsTags]
  · rw [read.formats, List.length_map, size]
  · cases entry : s.entries[n]? with
    | none =>
        have absent : (elementsAt formatPath (tagsWith s root look names))[n]? = none := by
          rw [read.formats, List.getElem?_map, entry, Option.map_none]
        rw [seenFormat?, absent]
        rfl
    | some e =>
        obtain ⟨id, same, -⟩ := h.formats e (List.mem_of_getElem? entry)
        have stored : s.entries[n]? = some (e.1, formatOf e.1 id) := by rw [entry, ← same]
        rw [read.seenFormat? stored, Option.map_some, same]
        rfl

/-- Whatever styles are registered, each is given the number under which the style sheet has its format in the end,
    and the written style sheet lists exactly these formats and the custom number formats that they refer to. -/
theorem registered_and_listed (styles : List Style) :
    Registered styles (initial.registerEach styles) (initial.registerAll styles) ∧
      ∃ tags, tags? (render (initial.registerAll styles).tokens) = some tags ∧ (initial.registerAll styles).Lists tags :=
  ⟨registered styles, (sound_initial.registerAll styles).lists⟩

end StyleSheet

end SheetExport
