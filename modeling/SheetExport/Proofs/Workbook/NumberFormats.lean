import SheetExport.Proofs.Workbook.Formats

/-! # Number formats read back

The table of number formats has an entry for each custom one, under an id of its own. An entry is read as the number
format that it was written for exactly if that is uncut, and where all are uncut each is read from its entry alone.
-/

namespace SheetExport.StyleSheet

open Xml

variable {s : StyleSheet} {tags : List Tag} {id : Nat} {p : String} {pattern : Option String}

/-- The number format stands in the table under the id, as it is written. -/
def WrittenAs (tags : List Tag) (id : Nat) (p : String) : Prop := (id, (escape p).toList) ∈ numberFormats tags

/-- A single entry of the table is read as the number format, and it has the id. -/
def DeclaredOnce (tags : List Tag) (id : Nat) (p : String) : Prop :=
  ∃ code, (numberFormats tags).filter (fun entry => decode entry.2 = p.toList) = [(id, code)]

theorem IsRead.mem_numberFormats (h : s.IsRead tags) {code : List Char} :
    (id, code) ∈ numberFormats tags ↔
      ∃ i p, s.patterns[i]? = some p ∧ id = firstCustomFormat + i ∧ code = (escape p).toList := by
  rw [h.table, List.mem_mapIdx]
  constructor
  · rintro ⟨i, inside, same⟩
    exact ⟨i, s.patterns[i], List.getElem?_eq_getElem inside, (Prod.ext_iff.mp same).1.symm,
      (Prod.ext_iff.mp same).2.symm⟩
  · rintro ⟨i, p, listed, rfl, rfl⟩
    obtain ⟨inside, rfl⟩ := List.getElem?_eq_some_iff.mp listed
    exact ⟨i, inside, rfl⟩

theorem IsRead.written (h : s.IsRead tags) (denotes : Denotes s.patterns id pattern) :
    IsIdOf (WrittenAs tags) id pattern :=
  denotes.imp fun p _ _ ⟨i, listed, same⟩ => h.mem_numberFormats.mpr ⟨i, p, listed, same, rfl⟩

/-- No two entries have one id. -/
theorem IsRead.ids_distinct (h : s.IsRead tags) : ((numberFormats tags).map Prod.fst).Nodup := by
  rw [h.table]
  refine List.pairwise_iff_getElem.mpr fun i j first second before => ?_
  simp only [List.getElem_map, List.getElem_mapIdx]
  omega

/-- Of uncut number formats a single one is read as the one sought. -/
theorem filter_entries {patterns : List String} (distinct : patterns.Nodup)
    (uncut : ∀ q ∈ patterns, Uncut q.toList) {i : Nat} (listed : patterns[i]? = some p) (first : Nat) :
    (patterns.mapIdx fun i q => (first + i, (escape q).toList)).filter (fun entry => decode entry.2 = p.toList) =
      [(first + i, (escape p).toList)] := by
  induction patterns generalizing first i with
  | nil => simp at listed
  | cons q patterns ih =>
      obtain ⟨fresh, distinct⟩ := List.nodup_cons.mp distinct
      have back : ∀ q' ∈ q :: patterns, decode (escape q').toList = q'.toList :=
        fun q' inside => (decode_escape_iff q').mpr (uncut q' inside)
      have later (first : Nat) : patterns.mapIdx (fun i q => (first + (i + 1), (escape q).toList)) =
          patterns.mapIdx fun i q => (first + 1 + i, (escape q).toList) := by
        simp only [Nat.add_assoc, Nat.add_comm 1]
      rw [List.mapIdx_cons, later]
      cases i with
      | zero =>
          obtain rfl : q = p := by simpa using listed
          rw [List.filter_cons_of_pos (by simpa using back q List.mem_cons_self)]
          congr 1
          refine List.filter_eq_nil_iff.mpr fun entry inside same => ?_
          obtain ⟨j, lt, rfl⟩ := List.mem_mapIdx.mp inside
          have read := (back _ (List.mem_cons_of_mem q (List.getElem_mem lt))).symm.trans (of_decide_eq_true same)
          exact fresh (String.toList_inj.mp read ▸ List.getElem_mem lt)
      | succ i =>
          have there : patterns[i]? = some p := by simpa using listed
          have other : ¬ decode (escape q).toList = p.toList := by
            rw [back q List.mem_cons_self]
            exact fun same => fresh (String.toList_inj.mp same ▸ List.mem_of_getElem? there)
          rw [List.filter_cons_of_neg (by simpa using other),
            ih distinct (fun q' inside => uncut q' (List.mem_cons_of_mem q inside)) there, Nat.add_assoc, Nat.add_comm 1]

theorem IsRead.declaredOnce (h : s.IsRead tags) (sound : s.Sound) (uncut : ∀ q ∈ s.patterns, Uncut q.toList)
    (denotes : Denotes s.patterns id pattern) : IsIdOf (DeclaredOnce tags) id pattern := by
  refine denotes.imp fun p _ _ ⟨i, listed, same⟩ => ⟨(escape p).toList, ?_⟩
  rw [h.table, same]
  exact filter_entries sound.distinct uncut listed firstCustomFormat

/-- What stands under the id of a number format is read as that number format only if it is uncut. -/
theorem IsRead.uncut_of_declaredOnce (h : s.IsRead tags) (unknown : builtInFormats.lookup p = none)
    (denotes : Denotes s.patterns id (some p)) (once : IsIdOf (DeclaredOnce tags) id (some p)) : Uncut p.toList := by
  obtain ⟨i, listed, same⟩ := (isIdOf_custom unknown).mp denotes
  obtain ⟨code, alone⟩ := (isIdOf_custom unknown).mp once
  have held : (id, code) ∈ (numberFormats tags).filter fun entry => decode entry.2 = p.toList :=
    alone ▸ List.mem_singleton_self _
  obtain ⟨inside, read⟩ := List.mem_filter.mp held
  obtain ⟨j, q, there, again, rfl⟩ := h.mem_numberFormats.mp inside
  obtain rfl : i = j := by omega
  obtain rfl : p = q := Option.some.inj (listed.symm.trans there)
  exact (decode_escape_iff p).mp (of_decide_eq_true read)

end SheetExport.StyleSheet
