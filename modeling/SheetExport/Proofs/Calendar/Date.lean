import SheetExport.Calendar.DateTime

/-! # Days without gaps

Dates are numbered in the order of their years, months and days, and the number grows by one from each day to the next.
A month ends where the next one begins, and so does a year.
-/

namespace SheetExport

theorem eq_compare_then {κ : Type} [Ord κ] {p q : κ} {o o' : Ordering} (before : compare p q = .lt → o = .lt)
    (same : compare p q = .eq → o = o') (after : compare p q = .gt → o = .gt) : o = (compare p q).then o' := by
  cases first : compare p q with
  | lt => exact before first
  | eq => exact same first
  | gt => exact after first

namespace Date

variable {year : Int} {month : Nat} {d e f : Date}

/-! ## Months and years -/

def daysInYear (year : Int) : Nat := if isLeapYear year then 366 else 365

theorem daysBeforeMonth_succ (year : Int) (positive : 0 < month) :
    daysBeforeMonth year (month + 1) = daysBeforeMonth year month + daysInMonth year month := by
  have next : month + 1 - 1 = (month - 1) + 1 := by omega
  have back : month - 1 + 1 = month := by omega
  rw [daysBeforeMonth, next, List.range_succ, List.map_append, List.sum_append, daysBeforeMonth]
  simp [back]

/-- The months before one are over when it begins. -/
theorem daysBeforeMonth_le (year : Int) {first : Nat} (positive : 0 < first) (lt : first < month) :
    daysBeforeMonth year first + daysInMonth year first ≤ daysBeforeMonth year month := by
  induction month with
  | zero => cases lt
  | succ month ih =>
      rw [daysBeforeMonth_succ year (by omega)]
      rcases Nat.lt_or_eq_of_le (Nat.le_of_lt_succ lt) with earlier | rfl
      · exact Nat.le_trans (ih earlier) (Nat.le_add_right _ _)
      · exact Nat.le_refl _

theorem daysBeforeMonth_whole (year : Int) : daysBeforeMonth year 13 = daysInYear year := by
  cases leap : isLeapYear year <;> simp [daysBeforeMonth, daysInYear, daysInMonth, leap, List.range, List.range.loop]

theorem daysBeforeYear_succ (year : Int) : daysBeforeYear (year + 1) = daysBeforeYear year + daysInYear year := by
  have fourth : year / 4 = (year - 1) / 4 + if year % 4 = 0 then 1 else 0 := by split <;> omega
  have century : year / 100 = (year - 1) / 100 + if year % 100 = 0 then 1 else 0 := by split <;> omega
  have cycle : year / 400 = (year - 1) / 400 + if year % 400 = 0 then 1 else 0 := by split <;> omega
  have length : (daysInYear year : Int) = 365 + (if year % 4 = 0 then 1 else 0) - (if year % 100 = 0 then 1 else 0) +
      if year % 400 = 0 then 1 else 0 := by
    by_cases inFourth : year % 4 = 0 <;> by_cases inCentury : year % 100 = 0 <;>
      by_cases inCycle : year % 400 = 0 <;>
      first | omega | simp [daysInYear, isLeapYear, inFourth, inCentury, inCycle]
  simp only [daysBeforeYear, Int.add_sub_cancel, fourth, century, cycle, length]
  omega

/-- The years before one are over when it begins. -/
theorem daysBeforeYear_le {first : Int} (lt : first < year) :
    daysBeforeYear first + daysInYear first ≤ daysBeforeYear year := by
  rw [← daysBeforeYear_succ, daysBeforeYear, daysBeforeYear]
  omega

/-! ## Days -/

theorem dayOfYear_bounds (d : Date) :
    0 < daysBeforeMonth d.year d.month + d.day ∧ daysBeforeMonth d.year d.month + d.day ≤ daysInYear d.year := by
  have passed : d.month < 13 := Nat.lt_succ_of_le d.month_mem.2
  have before := daysBeforeMonth_le d.year d.month_mem.1 passed
  rw [daysBeforeMonth_whole] at before
  have within := d.day_mem
  omega

theorem ordinal_eq (d : Date) :
    d.ordinal = daysBeforeYear d.year + (daysBeforeMonth d.year d.month + d.day : Nat) := by
  rw [ordinal, Int.natCast_add]
  omega

theorem ordinal_lt_of_year (lt : d.year < e.year) : d.ordinal < e.ordinal := by
  have passed := daysBeforeYear_le lt
  have left := (dayOfYear_bounds d).2
  have right := (dayOfYear_bounds e).1
  rw [ordinal_eq, ordinal_eq]
  omega

theorem ordinal_lt_of_month (same : d.year = e.year) (lt : d.month < e.month) : d.ordinal < e.ordinal := by
  have passed := daysBeforeMonth_le d.year d.month_mem.1 lt
  have left := d.day_mem
  have right := e.day_mem
  rw [ordinal, ordinal, ← same]
  omega

theorem compare_ordinal_of_month (year_ : d.year = e.year) (month_ : d.month = e.month) :
    compare d.ordinal e.ordinal = compare d.day e.day := by
  rw [ordinal, ordinal, ← year_, ← month_]
  rcases Nat.lt_trichotomy d.day e.day with lt | same | gt
  · rw [Nat.compare_eq_lt.mpr lt, Int.compare_eq_lt]
    omega
  · rw [Nat.compare_eq_eq.mpr same, Int.compare_eq_eq, same]
  · rw [Nat.compare_eq_gt.mpr gt, Int.compare_eq_gt]
    omega

/-- Dates are in the order of their years, then of their months, then of their days. -/
theorem order_eq (d e : Date) :
    d.order e = (compare d.year e.year).then ((compare d.month e.month).then (compare d.day e.day)) := by
  refine eq_compare_then (fun lt => ?_) (fun same => ?_) fun gt => ?_
  · exact Int.compare_eq_lt.mpr (ordinal_lt_of_year (Int.compare_eq_lt.mp lt))
  · have year_ := Int.compare_eq_eq.mp same
    refine eq_compare_then (fun lt => ?_) (fun same => ?_) fun gt => ?_
    · exact Int.compare_eq_lt.mpr (ordinal_lt_of_month year_ (Nat.compare_eq_lt.mp lt))
    · exact compare_ordinal_of_month year_ (Nat.compare_eq_eq.mp same)
    · exact Int.compare_eq_gt.mpr (ordinal_lt_of_month year_.symm (Nat.compare_eq_gt.mp gt))
  · exact Int.compare_eq_gt.mpr (ordinal_lt_of_year (Int.compare_eq_gt.mp gt))

/-! ## The next day -/

/-- The second date comes after the first one, and none is between them. -/
structure IsNext (d e : Date) : Prop where
  later : d.order e = .lt
  first : ∀ f : Date, d.order f = .lt → e.order f ≠ .gt

theorem fields_of_ofYmd? {day : Nat} (made : ofYmd? year month day = some e) :
    e.year = year ∧ e.month = month ∧ e.day = day := by
  rw [ofYmd?] at made
  split at made
  · cases made
    exact ⟨rfl, rfl, rfl⟩
  · cases made

theorem ofYmd?_of_valid {day : Nat} (years : -262143 ≤ year ∧ year ≤ 262142) (months : 1 ≤ month ∧ month ≤ 12)
    (days : 1 ≤ day ∧ day ≤ daysInMonth year month) : ofYmd? year month day ≠ none := by
  rw [ofYmd?, dif_pos ⟨years, months, days⟩]
  exact Option.some_ne_none _

/-- A year is over with the last day of its last month. -/
theorem dayOfYear_last (months : ¬ d.month < 12) (days : ¬ d.day < daysInMonth d.year d.month) :
    daysBeforeMonth d.year d.month + d.day = daysInYear d.year := by
  have december : d.month + 1 = 13 := by have := d.month_mem.2; omega
  have passed := daysBeforeMonth_succ d.year d.month_mem.1
  have within := d.day_mem.2
  rw [december, daysBeforeMonth_whole] at passed
  omega

theorem ordinal_next? (next : d.next? = some e) : e.ordinal = d.ordinal + 1 := by
  have within := d.day_mem
  have months := d.month_mem
  rw [next?] at next
  split at next
  · obtain ⟨year_, month_, day_⟩ := fields_of_ofYmd? next
    rw [ordinal, ordinal, year_, month_, day_]
    omega
  · split at next
    · obtain ⟨year_, month_, day_⟩ := fields_of_ofYmd? next
      have passed := daysBeforeMonth_succ d.year months.1
      rw [ordinal, ordinal, year_, month_, day_]
      omega
    · obtain ⟨year_, month_, day_⟩ := fields_of_ofYmd? next
      rename_i days december
      have passed := daysBeforeYear_succ d.year
      have begins : daysBeforeMonth (d.year + 1) 1 = 0 := rfl
      rw [ordinal_eq e, ordinal_eq d, dayOfYear_last december days, year_, month_, day_, begins, passed]
      omega

/-- After a day without a next one there is none. -/
theorem ordinal_le_of_last (last : d.next? = none) (e : Date) : e.ordinal ≤ d.ordinal := by
  have within := d.day_mem
  have years := d.year_mem
  have months := d.month_mem
  rw [next?] at last
  split at last
  · exact absurd last (ofYmd?_of_valid years months (by omega))
  · split at last
    · refine absurd last (ofYmd?_of_valid years (by omega) ⟨Nat.le_refl 1, ?_⟩)
      rw [daysInMonth]
      split <;> split <;> omega
    · rename_i days december
      have ends : d.year = 262142 := by
        refine Classical.byContradiction fun earlier => absurd last ?_
        exact ofYmd?_of_valid (by omega) (by decide) ⟨Nat.le_refl 1, by simp [daysInMonth]⟩
      rcases Int.lt_or_eq_of_le e.year_mem.2 with earlier | same
      · exact Int.le_of_lt (ordinal_lt_of_year (ends ▸ earlier))
      · have bounds := (dayOfYear_bounds e).2
        rw [ordinal_eq e, ordinal_eq d, dayOfYear_last december days, ends]
        rw [same] at bounds ⊢
        omega

theorem isNext_of_next? (next : d.next? = some e) : d.IsNext e := by
  have step := ordinal_next? next
  refine ⟨Int.compare_eq_lt.mpr (by omega), fun f later early => ?_⟩
  have after := Int.compare_eq_lt.mp later
  have before := Int.compare_eq_gt.mp early
  omega

/-- The number of a day grows by one to the next day. -/
theorem IsNext.ordinal (h : d.IsNext e) : e.ordinal = d.ordinal + 1 := by
  have after := Int.compare_eq_lt.mp h.later
  cases next : d.next? with
  | none =>
      have le := ordinal_le_of_last next e
      omega
  | some f =>
      have step := ordinal_next? next
      have le := h.first f (Int.compare_eq_lt.mpr (by omega))
      rw [order, Ne, Int.compare_eq_gt] at le
      omega

end Date

/-- Date-times are in the order of their dates, then of their seconds, then of their nanoseconds. -/
theorem DateTime.order_eq (t u : DateTime) :
    t.order u = (t.date.order u.date).then ((compare t.second u.second).then (compare t.nano u.nano)) := by
  have left := t.second_lt
  have right := u.second_lt
  have first := t.nano_lt
  have second := u.nano_lt
  refine eq_compare_then (fun lt => ?_) (fun same => ?_) fun gt => ?_
  · have days := Int.compare_eq_lt.mp lt
    exact Int.compare_eq_lt.mpr (by rw [rank, rank]; omega)
  · have days := Int.compare_eq_eq.mp same
    refine eq_compare_then (fun lt => ?_) (fun same => ?_) fun gt => ?_
    · have seconds := Nat.compare_eq_lt.mp lt
      exact Int.compare_eq_lt.mpr (by rw [rank, rank]; omega)
    · have seconds := Nat.compare_eq_eq.mp same
      rw [order, rank, rank, days, seconds]
      rcases Nat.lt_trichotomy t.nano u.nano with lt | same | gt
      · rw [Nat.compare_eq_lt.mpr lt, Int.compare_eq_lt]
        omega
      · rw [Nat.compare_eq_eq.mpr same, Int.compare_eq_eq, same]
      · rw [Nat.compare_eq_gt.mpr gt, Int.compare_eq_gt]
        omega
    · have seconds := Nat.compare_eq_gt.mp gt
      exact Int.compare_eq_gt.mpr (by rw [rank, rank]; omega)
  · have days := Int.compare_eq_gt.mp gt
    exact Int.compare_eq_gt.mpr (by rw [rank, rank]; omega)

end SheetExport
