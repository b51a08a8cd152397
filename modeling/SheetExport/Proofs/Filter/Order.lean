import SheetExport.Proofs.Number.Whole
import SheetExport.Filter.Order

/-! # How far values are in an order

The order of two values is the reverse of theirs the other way round. Three values are in a consistent order, unless two
of them are whole numbers that differ and are rounded to the third: among themselves whole numbers are compared as they
are, but beside a floating-point number only after they have been rounded.
-/

namespace SheetExport

theorem Binary64.order_eq_some_iff {x y : Binary64} {o : Ordering} :
    x.order y = some o ↔ x.isNaN = false ∧ y.isNaN = false ∧ compare x.rank y.rank = o := by
  rw [order]
  cases x.isNaN <;> cases y.isNaN <;> simp

theorem Binary64.order_swap (x y : Binary64) : y.order x = (x.order y).map Ordering.swap := by
  rw [order, order, Bool.or_comm, Std.OrientedOrd.eq_swap (a := y.rank)]
  split <;> rfl

namespace CellValue

/-- The first value comes before the second or is equal to it. -/
def AtMost (a b : CellValue) : Prop := a.order b = some .lt ∨ a.order b = some .eq

instance (a b : CellValue) : Decidable (a.AtMost b) := inferInstanceAs (Decidable (_ ∨ _))

/-- Of values each of which is at most the next, the first is at most the last, and equal to it only if all are. -/
structure Joined (a b c : CellValue) : Prop where
  atMost : a.AtMost c
  equal : a.order c = some .eq → a.order b = some .eq ∧ b.order c = some .eq

/-- Two whole numbers that differ are equal to the floating-point number beside them, once they are rounded. -/
inductive Blurred : CellValue → CellValue → CellValue → Prop where
  | above {m n : Int} {x : Binary64} : m < n → (int m).order (float x) = some .eq →
      (int n).order (float x) = some .eq → Blurred (int m) (int n) (float x)
  | below {m n : Int} {x : Binary64} : m < n → (int m).order (float x) = some .eq →
      (int n).order (float x) = some .eq → Blurred (float x) (int m) (int n)
  /-- With the greater of them in the first place. -/
  | around {m n : Int} {x : Binary64} : n < m → (int m).order (float x) = some .eq →
      (int n).order (float x) = some .eq → Blurred (int m) (float x) (int n)

variable {a b c : CellValue} {l m n : Int} {x y z : Binary64}

/-! ## Two values -/

theorem order_swap (a b : CellValue) : b.order a = (a.order b).map Ordering.swap := by
  cases a with
  | empty => cases b <;> rfl
  | bool p =>
      cases b with
      | bool q => exact congrArg some Std.OrientedOrd.eq_swap
      | _ => rfl
  | text s =>
      cases b with
      | text t => exact congrArg some Std.OrientedOrd.eq_swap
      | _ => rfl
  | date d =>
      cases b with
      | date e => exact congrArg some Std.OrientedOrd.eq_swap
      | _ => rfl
  | dateTime t =>
      cases b with
      | dateTime u => exact congrArg some Std.OrientedOrd.eq_swap
      | _ => rfl
  | int m =>
      cases b with
      | int n => exact congrArg some Std.OrientedOrd.eq_swap
      | float y => exact Binary64.order_swap _ y
      | _ => rfl
  | float x =>
      cases b with
      | int n => exact Binary64.order_swap x _
      | float y => exact Binary64.order_swap x y
      | _ => rfl

theorem atMost_iff {o : Ordering} (ordered : a.order b = some o) : a.AtMost b ↔ o.isLE := by
  rw [AtMost, ordered]
  cases o <;> decide

theorem not_atMost (unordered : a.order b = none) : ¬ a.AtMost b := by
  rw [AtMost, unordered]
  exact fun some_ => some_.elim nofun nofun

theorem atMost_int_int : (int m).AtMost (int n) ↔ m ≤ n :=
  (atMost_iff rfl).trans Int.isLE_compare

theorem order_int_int_eq : (int m).order (int n) = some .eq ↔ m = n :=
  Option.some_inj.trans Int.compare_eq_eq

theorem order_float_int_eq : (float x).order (int m) = some .eq ↔ (int m).order (float x) = some .eq := by
  rw [order_swap (int m)]
  cases (int m).order (float x) with
  | none => simp
  | some o => cases o <;> simp

section Floats

variable (floats : a.order b = x.order y)
include floats

/-- Values that are compared as floating-point numbers. -/
theorem atMost_of_floats : a.AtMost b ↔ x.isNaN = false ∧ y.isNaN = false ∧ x.rank ≤ y.rank := by
  rw [AtMost, floats, Binary64.order_eq_some_iff, Binary64.order_eq_some_iff, Int.compare_eq_lt, Int.compare_eq_eq,
    Int.le_iff_lt_or_eq, ← and_or_left, ← and_or_left]

theorem equal_of_floats : a.order b = some .eq ↔ x.isNaN = false ∧ y.isNaN = false ∧ x.rank = y.rank := by
  rw [floats, Binary64.order_eq_some_iff, Int.compare_eq_eq]

end Floats

/-! ## Three values of one kind -/

/-- Where values are compared by keys, and keys are in a linear order, so are the values. -/
theorem joined_of_compare {κ : Type} [Ord κ] [Std.TransOrd κ] {p q r : κ} (left : a.order b = some (compare p q))
    (right : b.order c = some (compare q r)) (outer : a.order c = some (compare p r)) (first : a.AtMost b)
    (second : b.AtMost c) : Joined a b c where
  atMost := (atMost_iff outer).mpr
    (Std.TransOrd.isLE_trans ((atMost_iff left).mp first) ((atMost_iff right).mp second))
  equal same := by
    have ends : compare p r = .eq := Option.some_inj.mp (outer.symm.trans same)
    have turned : (compare r p).isLE = true := by rw [Std.OrientedOrd.eq_swap, ends]; rfl
    have forth := (atMost_iff left).mp first
    have further := (atMost_iff right).mp second
    have back : (compare q p).isLE = true := Std.TransOrd.isLE_trans further turned
    have again : (compare r q).isLE = true := Std.TransOrd.isLE_trans turned forth
    exact ⟨left.trans (congrArg some (Std.OrientedCmp.isLE_antisymm forth back)),
      right.trans (congrArg some (Std.OrientedCmp.isLE_antisymm further again))⟩

/-- A kind of values that have no order with others, and one by keys among themselves. -/
theorem joined_of_kind {ι κ : Type} [Ord κ] [Std.TransOrd κ] (wrap : ι → CellValue) (key : ι → κ)
    (inside : ∀ i j, (wrap i).order (wrap j) = some (compare (key i) (key j)))
    (outside : ∀ i v, (wrap i).order v = none ∨ ∃ j, v = wrap j) {i : ι} (first : (wrap i).AtMost b)
    (second : b.AtMost c) : Joined (wrap i) b c := by
  obtain ⟨j, rfl⟩ := (outside i b).resolve_left fun unordered => not_atMost unordered first
  obtain ⟨k, rfl⟩ := (outside j c).resolve_left fun unordered => not_atMost unordered second
  exact joined_of_compare (inside i j) (inside j k) (inside i k) first second

theorem joined_of_floats (left : a.order b = x.order y) (right : b.order c = y.order z)
    (outer : a.order c = x.order z) (first : a.AtMost b) (second : b.AtMost c) : Joined a b c := by
  obtain ⟨known, between, -⟩ := (atMost_of_floats left).mp first
  obtain ⟨-, last, -⟩ := (atMost_of_floats right).mp second
  exact joined_of_compare (left.trans (Binary64.order_eq_some_iff.mpr ⟨known, between, rfl⟩))
    (right.trans (Binary64.order_eq_some_iff.mpr ⟨between, last, rfl⟩))
    (outer.trans (Binary64.order_eq_some_iff.mpr ⟨known, last, rfl⟩)) first second

/-! ## Two whole numbers and a floating-point number -/

theorem joined_above_iff (first : (int l).AtMost (int m)) (second : (int m).AtMost (float x)) :
    Joined (int l) (int m) (float x) ↔ ¬ Blurred (int l) (int m) (float x) := by
  have le := Binary64.rank_ofInt_mono (atMost_int_int.mp first)
  obtain ⟨-, number, further⟩ := (atMost_of_floats rfl).mp second
  constructor
  · rintro joined (⟨lt, same, -⟩ | _)
    exact absurd (order_int_int_eq.mp (joined.equal same).1) (Int.ne_of_lt lt)
  · intro clear
    refine ⟨(atMost_of_floats rfl).mpr ⟨Binary64.isNaN_ofInt l, number, by omega⟩, fun same => ?_⟩
    have ends := ((equal_of_floats rfl).mp same).2.2
    have next : (int m).order (float x) = some .eq :=
      (equal_of_floats rfl).mpr ⟨Binary64.isNaN_ofInt m, number, by omega⟩
    refine ⟨order_int_int_eq.mpr (Classical.byContradiction fun differ => clear ?_), next⟩
    have lt : l < m := by have := atMost_int_int.mp first; omega
    exact .above lt same next

theorem joined_below_iff (first : (float x).AtMost (int m)) (second : (int m).AtMost (int n)) :
    Joined (float x) (int m) (int n) ↔ ¬ Blurred (float x) (int m) (int n) := by
  have le := Binary64.rank_ofInt_mono (atMost_int_int.mp second)
  obtain ⟨number, -, further⟩ := (atMost_of_floats rfl).mp first
  constructor
  · rintro joined (_ | ⟨lt, -, same⟩)
    exact absurd (order_int_int_eq.mp (joined.equal (order_float_int_eq.mpr same)).2) (Int.ne_of_lt lt)
  · intro clear
    refine ⟨(atMost_of_floats rfl).mpr ⟨number, Binary64.isNaN_ofInt n, by omega⟩, fun same => ?_⟩
    have ends := ((equal_of_floats rfl).mp same).2.2
    have next : (float x).order (int m) = some .eq :=
      (equal_of_floats rfl).mpr ⟨number, Binary64.isNaN_ofInt m, by omega⟩
    refine ⟨next, order_int_int_eq.mpr (Classical.byContradiction fun differ => clear ?_)⟩
    have lt : m < n := by have := atMost_int_int.mp second; omega
    exact .below lt (order_float_int_eq.mp next) (order_float_int_eq.mp same)

theorem joined_around_iff (first : (int m).AtMost (float x)) (second : (float x).AtMost (int n)) :
    Joined (int m) (float x) (int n) ↔ ¬ Blurred (int m) (float x) (int n) := by
  obtain ⟨-, number, low⟩ := (atMost_of_floats rfl).mp first
  obtain ⟨-, -, high⟩ := (atMost_of_floats rfl).mp second
  constructor
  · rintro joined (_ | _ | ⟨lt, -, -⟩)
    exact absurd (atMost_int_int.mp joined.atMost) (Int.not_le.mpr lt)
  · intro clear
    have equal (le : n ≤ m) : (int m).order (float x) = some .eq ∧ (float x).order (int n) = some .eq := by
      have back := Binary64.rank_ofInt_mono le
      exact ⟨(equal_of_floats rfl).mpr ⟨Binary64.isNaN_ofInt m, number, by omega⟩,
        (equal_of_floats rfl).mpr ⟨number, Binary64.isNaN_ofInt n, by omega⟩⟩
    refine ⟨atMost_int_int.mpr (Int.not_lt.mp fun lt => clear ?_), fun same => ?_⟩
    · obtain ⟨left, right⟩ := equal (Int.le_of_lt lt)
      exact .around lt left (order_float_int_eq.mp right)
    · exact equal (Int.le_of_eq (order_int_int_eq.mp same).symm)

/-! ## Three values -/

theorem joined_iff (first : a.AtMost b) (second : b.AtMost c) : Joined a b c ↔ ¬ Blurred a b c := by
  cases a with
  | empty =>
      refine iff_of_true (joined_of_kind (fun _ : Unit => empty) (fun _ => 0) ?_ ?_ (i := ()) first second) nofun
      · exact fun _ _ => rfl
      · exact fun _ v => by cases v <;> first | exact .inl rfl | exact .inr ⟨(), rfl⟩
  | bool p =>
      refine iff_of_true (joined_of_kind bool id (fun _ _ => rfl) ?_ first second) nofun
      exact fun _ v => by cases v <;> first | exact .inl rfl | exact .inr ⟨_, rfl⟩
  | text s =>
      refine iff_of_true (joined_of_kind text id (fun _ _ => rfl) ?_ first second) nofun
      exact fun _ v => by cases v <;> first | exact .inl rfl | exact .inr ⟨_, rfl⟩
  | date d =>
      refine iff_of_true (joined_of_kind date Date.ordinal (fun _ _ => rfl) ?_ first second) nofun
      exact fun _ v => by cases v <;> first | exact .inl rfl | exact .inr ⟨_, rfl⟩
  | dateTime t =>
      refine iff_of_true (joined_of_kind dateTime DateTime.rank (fun _ _ => rfl) ?_ first second) nofun
      exact fun _ v => by cases v <;> first | exact .inl rfl | exact .inr ⟨_, rfl⟩
  | int l =>
      cases b with
      | int m =>
          cases c with
          | int n => exact iff_of_true (joined_of_compare (p := l) rfl rfl rfl first second) nofun
          | float z => exact joined_above_iff first second
          | _ => exact absurd second (not_atMost rfl)
      | float y =>
          cases c with
          | int n => exact joined_around_iff first second
          | float z => exact iff_of_true (joined_of_floats rfl rfl rfl first second) nofun
          | _ => exact absurd second (not_atMost rfl)
      | _ => exact absurd first (not_atMost rfl)
  | float x =>
      cases b with
      | int m =>
          cases c with
          | int n => exact joined_below_iff first second
          | float z => exact iff_of_true (joined_of_floats rfl rfl rfl first second) nofun
          | _ => exact absurd second (not_atMost rfl)
      | float y =>
          cases c with
          | int n | float z => exact iff_of_true (joined_of_floats rfl rfl rfl first second) nofun
          | _ => exact absurd second (not_atMost rfl)
      | _ => exact absurd first (not_atMost rfl)

/-- Up to `2 ^ 53` no two whole numbers are rounded to one. -/
theorem large_of_blurred (blurred : Blurred a b c) :
    ∃ n : Int, 2 ^ 53 < n.natAbs ∧ (a = int n ∨ b = int n ∨ c = int n) := by
  have large {m n : Int} {x : Binary64} (lt : m < n) (left : (int m).order (float x) = some .eq)
      (right : (int n).order (float x) = some .eq) : 2 ^ 53 < m.natAbs ∨ 2 ^ 53 < n.natAbs := by
    have first := ((equal_of_floats rfl).mp left).2.2
    have second := ((equal_of_floats rfl).mp right).2.2
    by_cases small : m.natAbs ≤ 2 ^ 53 ∧ n.natAbs ≤ 2 ^ 53
    · have apart := Binary64.rank_ofInt_lt lt small.1 small.2
      omega
    · omega
  cases blurred with
  | @above m n x lt left right =>
      exact (large lt left right).elim (fun big => ⟨m, big, .inl rfl⟩) fun big => ⟨n, big, .inr (.inl rfl)⟩
  | @below m n x lt left right =>
      exact (large lt left right).elim (fun big => ⟨m, big, .inr (.inl rfl)⟩) fun big => ⟨n, big, .inr (.inr rfl)⟩
  | @around m n x lt left right =>
      exact (large lt right left).elim (fun big => ⟨n, big, .inr (.inr rfl)⟩) fun big => ⟨m, big, .inl rfl⟩

/-- The order of two values is that of the same values the other way round, reversed. Of values each of which is at
    most the next, the first is at most the last, and equal to it only if all are; unless two of them are whole
    numbers, one of them beyond `2 ^ 53`, that are rounded to the third. -/
theorem order_consistent_iff (a b c : CellValue) :
    b.order a = (a.order b).map Ordering.swap ∧
    (a.AtMost b → b.AtMost c → (Joined a b c ↔ ¬ Blurred a b c)) ∧
    (Blurred a b c → ∃ n : Int, 2 ^ 53 < n.natAbs ∧ (a = int n ∨ b = int n ∨ c = int n)) :=
  ⟨order_swap a b, joined_iff, large_of_blurred⟩

/-- The number one and a half between whole numbers, and `2 ^ 53` between itself and the next whole number. -/
theorem order_consistent_iff_between :
    ((int 1).AtMost (float ⟨0x3FF8000000000000⟩) ∧ (float ⟨0x3FF8000000000000⟩).AtMost (int 2) ∧
      Joined (int 1) (float ⟨0x3FF8000000000000⟩) (int 2)) ∧
    (Blurred (int (2 ^ 53 + 1)) (float ⟨0x4340000000000000⟩) (int (2 ^ 53)) ∧
      ¬ Joined (int (2 ^ 53 + 1)) (float ⟨0x4340000000000000⟩) (int (2 ^ 53)) ∧
      ∃ n : Int, 2 ^ 53 < n.natAbs ∧ (int (2 ^ 53 + 1) = int n ∨ float ⟨0x4340000000000000⟩ = int n ∨
        int (2 ^ 53) = int n)) := by
  have low : (int 1).AtMost (float ⟨0x3FF8000000000000⟩) := by decide +kernel
  have high : (float ⟨0x3FF8000000000000⟩).AtMost (int 2) := by decide +kernel
  have rounded : (int (2 ^ 53 + 1)).order (float ⟨0x4340000000000000⟩) = some .eq := by decide +kernel
  have kept : (int (2 ^ 53)).order (float ⟨0x4340000000000000⟩) = some .eq := by decide +kernel
  have blurred : Blurred (int (2 ^ 53 + 1)) (float ⟨0x4340000000000000⟩) (int (2 ^ 53)) :=
    .around (by decide) rounded kept
  obtain ⟨-, apart, -⟩ := order_consistent_iff (int 1) (float ⟨0x3FF8000000000000⟩) (int 2)
  obtain ⟨-, rounds, large⟩ := order_consistent_iff (int (2 ^ 53 + 1)) (float ⟨0x4340000000000000⟩) (int (2 ^ 53))
  refine ⟨⟨low, high, (apart low high).mpr nofun⟩, blurred, fun joined => ?_, large blurred⟩
  exact (rounds (.inr rounded) (.inr (order_float_int_eq.mpr kept))).mp joined blurred

/-- Of three numbers each of which is at most the next, the first is greater than the last. -/
theorem rounded_numbers_disordered :
    (int (2 ^ 53 + 1)).AtMost (float ⟨0x4340000000000000⟩) ∧ (float ⟨0x4340000000000000⟩).AtMost (int (2 ^ 53)) ∧
      ¬ (int (2 ^ 53 + 1)).AtMost (int (2 ^ 53)) := by decide +kernel

end CellValue

end SheetExport
