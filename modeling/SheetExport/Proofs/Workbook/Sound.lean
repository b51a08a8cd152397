import SheetExport.Proofs.Workbook.Numbering

/-! # What numbers of styles and number formats stand for

A style sheet is `Sound` if each of its formats is that of its style and each custom number format is there once, for
some style. Registering a style keeps a style sheet sound, so the number that a cell was given leads to the format of
its style in the end, whatever was registered in between.
-/

namespace SheetExport.StyleSheet

variable {s : StyleSheet} {style : Style} {patterns : List String} {id n : Nat}

/-! ## Ids of number formats -/

/-- The id is that of a number format, where it is known what it takes to have `declared` a custom one under an id.
    Without a number format it is that of the general one. -/
def IsIdOf (declared : Nat → String → Prop) (id : Nat) : Option String → Prop
  | none => id = 0
  | some pattern =>
      match builtInFormats.lookup pattern with
      | some builtIn => id = builtIn
      | none => declared id pattern

theorem IsIdOf.imp {declared declared' : Nat → String → Prop} {pattern : Option String} (h : IsIdOf declared id pattern)
    (enough : ∀ p, pattern = some p → builtInFormats.lookup p = none → declared id p → declared' id p) :
    IsIdOf declared' id pattern := by
  cases pattern with
  | none => exact h
  | some p =>
      cases known : builtInFormats.lookup p with
      | some builtIn => simpa [IsIdOf, known] using h
      | none =>
          have custom : declared id p := by simpa [IsIdOf, known] using h
          simpa [IsIdOf, known] using enough p rfl known custom

/-- What is meant by the id of a custom number format. -/
theorem isIdOf_custom {declared : Nat → String → Prop} {p : String} (unknown : builtInFormats.lookup p = none) :
    IsIdOf declared id (some p) ↔ declared id p := by
  simp [IsIdOf, unknown]

/-- What an id stands for among custom number formats. -/
def Denotes (patterns : List String) (id : Nat) (pattern : Option String) : Prop :=
  IsIdOf (fun id p => ∃ i, patterns[i]? = some p ∧ id = firstCustomFormat + i) id pattern

/-- An id keeps what it stands for when more number formats become known. -/
theorem Denotes.append {pattern : Option String} (h : Denotes patterns id pattern) (more : List String) :
    Denotes (patterns ++ more) id pattern := by
  refine h.imp fun p _ _ ⟨i, listed, same⟩ => ⟨i, ?_, same⟩
  rw [List.getElem?_append_left (List.getElem?_eq_some_iff.mp listed).1, listed]

/-- The id of a number format, if there is one, and the custom formats once it is known. -/
def formatIdOf (patterns : List String) : Option String → Nat × List String
  | some pattern => formatId patterns pattern
  | none => (0, patterns)

/-- The custom formats grow by a number format that is neither built in nor among them. -/
inductive Grows (patterns : List String) (pattern : Option String) : List String → Prop where
  | same : Grows patterns pattern patterns
  | one {p : String} : pattern = some p → builtInFormats.lookup p = none → p ∉ patterns →
      Grows patterns pattern (patterns ++ [p])

theorem formatIdOf_denotes (patterns : List String) (pattern : Option String) :
    Denotes (formatIdOf patterns pattern).2 (formatIdOf patterns pattern).1 pattern ∧
      Grows patterns pattern (formatIdOf patterns pattern).2 := by
  cases pattern with
  | none => exact ⟨rfl, .same⟩
  | some p =>
      rw [formatIdOf, formatId]
      cases known : builtInFormats.lookup p with
      | some builtIn => exact ⟨by simp [Denotes, IsIdOf, known], .same⟩
      | none =>
          cases listed : patterns.idxOf? p with
          | some i =>
              have there : patterns[i]? = some p := by
                obtain ⟨inside, same, -⟩ := List.idxOf?_eq_some_iff.mp listed
                exact List.getElem?_eq_some_iff.mpr ⟨inside, by simpa using same⟩
              exact ⟨(isIdOf_custom known).mpr ⟨i, there, rfl⟩, .same⟩
          | none =>
              have fresh : p ∉ patterns := List.idxOf?_eq_none_iff.mp listed
              exact ⟨(isIdOf_custom known).mpr ⟨patterns.length, by simp, rfl⟩, .one rfl known fresh⟩

/-! ## Sound style sheets -/

structure Sound (s : StyleSheet) : Prop where
  plain : s.entries[0]? = some (.plain, formatOf .plain 0)
  formats : ∀ e ∈ s.entries, ∃ id, e.2 = formatOf e.1 id ∧ Denotes s.patterns id e.1.pattern
  distinct : s.patterns.Nodup
  /-- Number formats that are built in are not among the custom ones. -/
  custom : ∀ p ∈ s.patterns, builtInFormats.lookup p = none
  used : ∀ p ∈ s.patterns, ∃ e ∈ s.entries, e.1.pattern = some p

theorem sound_initial : Sound initial where
  plain := rfl
  formats e inside := by
    obtain rfl := List.mem_singleton.mp inside
    exact ⟨0, rfl, rfl⟩
  distinct := List.nodup_nil
  custom p inside := absurd inside List.not_mem_nil
  used p inside := absurd inside List.not_mem_nil

theorem register_fresh (h : s.number? style = none) :
    s.register style = (s.size, ⟨(formatIdOf s.patterns style.pattern).2,
      s.entries ++ [(style, formatOf style (formatIdOf s.patterns style.pattern).1)]⟩) := by
  rw [number?] at h
  cases asked : style.pattern with
  | none => simp [register, h, asked, formatIdOf]
  | some p => simp [register, h, asked, formatIdOf]

/-- A style that becomes known, with the id of its number format. -/
theorem Sound.add (h : s.Sound) {patterns : List String} (denotes : Denotes patterns id style.pattern)
    (grows : Grows s.patterns style.pattern patterns) : Sound ⟨patterns, s.entries ++ [(style, formatOf style id)]⟩ where
  plain := by
    have inside := (List.getElem?_eq_some_iff.mp h.plain).1
    rw [List.getElem?_append_left inside, h.plain]
  formats e inside := by
    cases List.mem_append.mp inside with
    | inl old =>
        obtain ⟨id, same, stands⟩ := h.formats e old
        cases grows with
        | same => exact ⟨id, same, stands⟩
        | one => exact ⟨id, same, stands.append _⟩
    | inr new =>
        obtain rfl := List.mem_singleton.mp new
        exact ⟨id, rfl, denotes⟩
  distinct := by
    cases grows with
    | same => exact h.distinct
    | one _ _ fresh =>
        refine List.nodup_append.mpr ⟨h.distinct, List.pairwise_singleton _ _, fun p inside q new same => fresh ?_⟩
        rwa [← List.mem_singleton.mp new, ← same]
  custom p inside := by
    cases grows with
    | same => exact h.custom p inside
    | one _ unknown _ =>
        cases List.mem_append.mp inside with
        | inl old => exact h.custom p old
        | inr new => rwa [List.mem_singleton.mp new]
  used p inside := by
    have old : p ∈ s.patterns → ∃ e ∈ s.entries ++ [(style, formatOf style id)], e.1.pattern = some p := by
      intro known
      obtain ⟨e, held, same⟩ := h.used p known
      exact ⟨e, List.mem_append_left _ held, same⟩
    cases grows with
    | same => exact old inside
    | one asked _ _ =>
        cases List.mem_append.mp inside with
        | inl known => exact old known
        | inr new => exact ⟨_, List.mem_append_right _ (List.mem_singleton_self _), List.mem_singleton.mp new ▸ asked⟩

theorem Sound.register (h : s.Sound) (style : Style) : (s.register style).2.Sound := by
  cases known : s.number? style with
  | some n => rwa [register_known known]
  | none =>
      obtain ⟨denotes, grows⟩ := formatIdOf_denotes s.patterns style.pattern
      rw [register_fresh known]
      exact h.add denotes grows

theorem Sound.registerAll (h : s.Sound) (styles : List Style) : (s.registerAll styles).Sound := by
  induction styles generalizing s with
  | nil => exact h
  | cons style styles ih => exact ih (h.register style)

/-! ## Numbers of styles that were registered -/

theorem styles_register (style : Style) : ∀ e ∈ (s.register style).2.entries, e ∈ s.entries ∨ e.1 = style := by
  intro e inside
  cases known : s.number? style with
  | some n =>
      rw [register_known known] at inside
      exact .inl inside
  | none =>
      rw [register_fresh known] at inside
      cases List.mem_append.mp inside with
      | inl old => exact .inl old
      | inr new => exact .inr (by rw [List.mem_singleton.mp new])

/-- A style sheet knows no styles but those that it was asked for. -/
theorem styles_registerAll (styles : List Style) :
    ∀ e ∈ (s.registerAll styles).entries, e ∈ s.entries ∨ e.1 ∈ styles := by
  induction styles generalizing s with
  | nil => exact fun e inside => .inl inside
  | cons style styles ih =>
      intro e inside
      cases ih e inside with
      | inr later => exact .inr (List.mem_cons_of_mem _ later)
      | inl before =>
          cases styles_register style e before with
          | inl old => exact .inl old
          | inr new => exact .inr (new ▸ List.mem_cons_self)

theorem exists_number?_registerAll {styles : List Style} (asked : style ∈ styles) :
    ∃ n, (s.registerAll styles).number? style = some n := by
  obtain ⟨before, after, rfl⟩ := List.append_of_mem asked
  refine ⟨((s.registerAll before).register style).1, ?_⟩
  rw [registerAll_append]
  exact number?_registerAll_of_some after (number?_register _ style)

theorem entry_of_number? (h : s.number? style = some n) : ∃ f, s.entries[n]? = some (style, f) := by
  obtain ⟨inside, same, -⟩ := List.findIdx?_eq_some_iff_getElem.mp h
  exact ⟨s.entries[n].2, List.getElem?_eq_some_iff.mpr ⟨inside, by rw [← of_decide_eq_true same]⟩⟩

/-- The number of a style leads to its format. -/
theorem Sound.entry_numberOf (h : s.Sound) (known : ∃ n, s.number? style = some n) :
    ∃ id, s.entries[s.numberOf style]? = some (style, formatOf style id) ∧ Denotes s.patterns id style.pattern := by
  obtain ⟨n, number⟩ := known
  obtain ⟨f, entry⟩ := entry_of_number? number
  obtain ⟨id, same, denotes⟩ := h.formats _ (List.mem_of_getElem? entry)
  refine ⟨id, ?_, denotes⟩
  rw [numberOf, number, ← show f = formatOf style id from same]
  exact entry

/-- Only the default style has the number 0. -/
theorem Sound.eq_plain (h : s.Sound) (known : ∃ n, s.number? style = some n) (zero : s.numberOf style = 0) :
    style = .plain := by
  obtain ⟨id, entry, -⟩ := h.entry_numberOf known
  rw [zero, h.plain] at entry
  exact (Prod.ext_iff.mp (Option.some.inj entry)).1.symm

end SheetExport.StyleSheet
