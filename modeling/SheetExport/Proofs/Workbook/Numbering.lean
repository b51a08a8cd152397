import SheetExport.Workbook.Styles

/-! # Numbers of styles

A style keeps the number that it got when it was first asked for, so the numbers that cells were given are those
of the style sheet in the end.
-/

namespace SheetExport.StyleSheet

variable {s : StyleSheet} {style other : Style} {n : Nat}

def number? (s : StyleSheet) (style : Style) : Option Nat := s.entries.findIdx? fun e => e.1 = style

/-- The number of a style; that of the default one if it was never asked for. -/
def numberOf (s : StyleSheet) (style : Style) : Nat := (s.number? style).getD 0

def registerAll (s : StyleSheet) (styles : List Style) : StyleSheet :=
  styles.foldl (fun s style => (s.register style).2) s

theorem registerAll_append (s : StyleSheet) (styles more : List Style) :
    s.registerAll (styles ++ more) = (s.registerAll styles).registerAll more := List.foldl_append

theorem register_known (h : s.number? style = some n) : s.register style = (n, s) := by
  rw [number?] at h
  rw [register, h]

theorem register_new (h : s.number? style = none) :
    ∃ patterns format, s.register style = (s.size, ⟨patterns, s.entries ++ [(style, format)]⟩) := by
  rw [number?] at h
  rw [register, h]
  exact ⟨_, _, rfl⟩

theorem number?_register (s : StyleSheet) (style : Style) :
    (s.register style).2.number? style = some (s.register style).1 := by
  cases known : s.number? style with
  | some n => rw [register_known known, known]
  | none =>
      obtain ⟨patterns, format, eq⟩ := register_new known
      rw [number?] at known
      rw [eq, number?, List.findIdx?_append, known]
      simp [size]

/-- Nothing that is asked for later changes the number of a style. -/
theorem number?_register_of_some (style : Style) (h : s.number? other = some n) :
    (s.register style).2.number? other = some n := by
  cases known : s.number? style with
  | some m => rwa [register_known known]
  | none =>
      obtain ⟨patterns, format, eq⟩ := register_new known
      rw [number?] at h
      rw [eq, number?, List.findIdx?_append, h]
      rfl

theorem number?_registerAll_of_some (styles : List Style) (h : s.number? other = some n) :
    (s.registerAll styles).number? other = some n := by
  induction styles generalizing s with
  | nil => exact h
  | cons style styles ih => exact ih (number?_register_of_some style h)

/-- The number that a style gets is its number in the end. -/
theorem numberOf_registerAll (s : StyleSheet) (style : Style) (styles : List Style) :
    (s.registerAll (style :: styles)).numberOf style = (s.register style).1 := by
  have number := number?_registerAll_of_some styles (number?_register s style)
  rw [numberOf, show s.registerAll (style :: styles) = (s.register style).2.registerAll styles from rfl, number]
  rfl

end SheetExport.StyleSheet
