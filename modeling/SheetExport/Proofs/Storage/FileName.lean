import SheetExport.Storage.Basic

/-! # Which texts name files

A text is accepted as the name of a file if it is a way of one part. Those are the texts without a slash that are
neither empty nor one of the dots, and such a name comes last on every way that ends in it.
-/

namespace SheetExport

variable {name text root : String} {piece : List Char}

theorem isFileName_iff : isFileName name = true ↔ name ≠ "" ∧ '/' ∉ name.toList ∧ name ≠ "." ∧ name ≠ ".." := by
  simp [isFileName, and_assoc]

/-- Between slashes there is no slash. -/
theorem not_mem_of_mem_splitOn {α : Type} [BEq α] [LawfulBEq α] {a : α} {as piece : List α}
    (inside : piece ∈ as.splitOn a) : a ∉ piece := by
  induction as generalizing piece with
  | nil => simp_all
  | cons b as ih =>
      rw [List.splitOn_cons_eq_if_modifyHead] at inside
      split at inside
      · rcases List.mem_cons.mp inside with rfl | later
        · exact List.not_mem_nil
        · exact ih later
      · rename_i other
        obtain ⟨first, later, pieces⟩ := List.exists_cons_of_ne_nil (List.splitOn_ne_nil a as)
        rw [pieces] at inside ih
        rcases List.mem_cons.mp inside with rfl | later
        · have apart : a ≠ b := fun same => other (beq_iff_eq.mpr same.symm)
          exact List.not_mem_cons_of_ne_of_not_mem apart (ih List.mem_cons_self)
        · exact ih (List.mem_cons_of_mem first later)

/-! ## Parts of ways -/

theorem ofPiece_eq_name_iff :
    WayPart.ofPiece piece = some (.name text) ↔ piece = text.toList ∧ text ≠ "" ∧ text ≠ "." ∧ text ≠ ".." := by
  have dots : (text ≠ "" ∧ text ≠ "." ∧ text ≠ "..") ↔
      text.toList ≠ [] ∧ text.toList ≠ ['.'] ∧ text.toList ≠ ['.', '.'] := by
    simp only [ne_eq, ← String.toList_inj]
    rfl
  rw [dots, WayPart.ofPiece]
  split
  · rename_i silent
    constructor
    · exact nofun
    · rintro ⟨rfl, some_, here, -⟩
      exact silent.elim (absurd · some_) (absurd · here)
  · rename_i told
    split
    · rename_i up
      constructor
      · exact nofun
      · rintro ⟨rfl, -, -, other⟩
        exact absurd up other
    · rename_i other
      rw [not_or] at told
      constructor
      · intro same
        obtain rfl : String.ofList piece = text := by simpa using same
        rw [String.toList_ofList]
        exact ⟨rfl, told.1, told.2, other⟩
      · rintro ⟨rfl, -⟩
        rw [String.ofList_toList]

/-- Every name on a way is the name of a file. -/
theorem isFileName_of_mem_wayParts (inside : .name name ∈ wayParts text) : isFileName name = true := by
  have said : .name name ∈ (text.toList.splitOn '/').filterMap WayPart.ofPiece := by
    rw [wayParts] at inside
    split at inside
    · exact (List.mem_cons.mp inside).resolve_left nofun
    · split at inside
      · exact (List.mem_cons.mp inside).resolve_left nofun
      · exact inside
  obtain ⟨piece, between, named⟩ := List.mem_filterMap.mp said
  obtain ⟨rfl, some_, here, up⟩ := ofPiece_eq_name_iff.mp named
  exact isFileName_iff.mpr ⟨some_, not_mem_of_mem_splitOn between, here, up⟩

/-- A file name at the end of a way is the last part of it, and changes no other part. -/
theorem wayParts_append (named : isFileName name = true) (some_ : root ≠ "") :
    wayParts (root ++ "/" ++ name) = wayParts root ++ [.name name] := by
  obtain ⟨something, whole, here, up⟩ := isFileName_iff.mp named
  have said : WayPart.ofPiece name.toList = some (.name name) := ofPiece_eq_name_iff.mpr ⟨rfl, something, here, up⟩
  have chars : (root ++ "/" ++ name).toList = root.toList ++ '/' :: name.toList := by simp
  have begins : (root.toList ++ '/' :: name.toList).head? = root.toList.head? := by
    rw [List.head?_append, List.head?_eq_some_head (by simpa using some_), Option.some_or]
  have first : (root.toList.splitOn '/' ++ [name.toList]).head? = (root.toList.splitOn '/').head? := by
    rw [List.head?_append, List.head?_eq_some_head (List.splitOn_ne_nil _ _), Option.some_or]
  rw [wayParts, wayParts, chars, begins, List.splitOn_append_cons_self, List.splitOn_eq_singleton whole, first,
    List.filterMap_append, List.filterMap_cons_some said, List.filterMap_nil]
  split
  · rfl
  · split <;> rfl

theorem wayParts_name (named : isFileName name = true) : wayParts name = [.name name] := by
  obtain ⟨something, whole, here, up⟩ := isFileName_iff.mp named
  have said : WayPart.ofPiece name.toList = some (.name name) := ofPiece_eq_name_iff.mpr ⟨rfl, something, here, up⟩
  have begins : name.toList.head? ≠ some '/' := fun slash => whole (List.mem_of_head? slash)
  have other : [name.toList].head? ≠ some ['.'] := fun dot => here (String.toList_inj.mp (Option.some.inj dot))
  rw [wayParts, List.splitOn_eq_singleton whole, List.filterMap_cons_some said, List.filterMap_nil,
    if_neg begins, if_neg other]

/-! ## Names that are accepted -/

theorem demandFileName_ok (named : isFileName name = true) : demandFileName name = .ok () := by
  refine if_pos ⟨(isFileName_iff.mp named).1, ?_, ?_⟩
  · rw [wayParts_name named]
    rfl
  · rw [lastName?, wayParts_name named]
    rfl

theorem demandFileName_refused (unnamed : isFileName name = false) :
    demandFileName name =
      .error (.invalidValue "file_name" "File name must not contain path separators" name) := by
  refine if_neg ?_
  rintro ⟨-, -, last⟩
  refine absurd (@isFileName_of_mem_wayParts name name ?_) (Bool.eq_false_iff.mp unnamed)
  rw [lastName?] at last
  split at last
  · rename_i ends
    cases last
    exact List.mem_of_getLast? ends
  · cases last

theorem demandFileName_eq_ok_iff : demandFileName name = .ok () ↔ isFileName name = true := by
  cases named : isFileName name with
  | true => exact iff_of_true (demandFileName_ok named) rfl
  | false => exact iff_of_false (by rw [demandFileName_refused named]; exact nofun) nofun

end SheetExport
