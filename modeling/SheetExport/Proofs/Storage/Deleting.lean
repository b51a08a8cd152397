import SheetExport.Proofs.Action
import SheetExport.Proofs.Storage.FileTree

/-! # What a deletion can reach

A directory deletes what begins with its own components, by which a locator may still lead out of it again: what comes
after them goes some directories up and then down. So a locator stays inside as long as it does not go up further
than the directory, or comes back by the names of the directories that it has left.
-/

namespace SheetExport.FileTree

/-- A way from a place: so many directories up, and then down. -/
structure Detour where
  up : Nat
  down : FilePath
  deriving Repr, DecidableEq

namespace Detour

/-- The way with one more component. -/
def enter (w : Detour) (name : String) : Detour :=
  if name = "." then w
  else if name = ".." then if w.down = [] then ⟨w.up + 1, []⟩ else { w with down := w.down.dropLast }
  else { w with down := w.down ++ [name] }

/-- The way that components lead. -/
def of (names : List String) : Detour := names.foldl enter ⟨0, []⟩

/-- Where a way ends; nothing is above the top. -/
def endFrom (w : Detour) (place : FilePath) : FilePath := place.take (place.length - w.up) ++ w.down

variable {place root : FilePath} {names : List String} {name : String}

theorem enter_endFrom (w : Detour) (name : String) (place : FilePath) :
    FileTree.enter (w.endFrom place) name = (w.enter name).endFrom place := by
  by_cases here : name = "."
  · simp [FileTree.enter, enter, here]
  · by_cases above : name = ".."
    · subst above
      by_cases top : w.down = []
      · have higher : (place.take (place.length - w.up)).dropLast = place.take (place.length - (w.up + 1)) := by
          rw [List.dropLast_eq_take, List.take_take, List.length_take]
          congr 1
          omega
        simp [FileTree.enter, enter, top, endFrom, higher]
      · simp [FileTree.enter, enter, top, endFrom, List.dropLast_append_of_ne_nil]
    · simp [FileTree.enter, enter, here, above, endFrom]

theorem foldl_enter (names : List String) (w : Detour) (place : FilePath) :
    names.foldl FileTree.enter (w.endFrom place) = (names.foldl enter w).endFrom place := by
  induction names generalizing w with
  | nil => rfl
  | cons name rest ih => rw [List.foldl_cons, List.foldl_cons, enter_endFrom, ih]

/-- Components lead from a place to where their way ends. -/
theorem of_endFrom (names : List String) (place : FilePath) :
    names.foldl FileTree.enter place = (of names).endFrom place := by
  have start : place = (⟨0, []⟩ : Detour).endFrom place := by simp [endFrom]
  rw [of, ← foldl_enter, ← start]

/-- A way stays below a place if it comes back by the names that it has left. -/
theorem prefix_endFrom_iff (w : Detour) (place : FilePath) :
    place <+: w.endFrom place ↔ place.drop (place.length - w.up) <+: w.down := by
  let kept := place.take (place.length - w.up)
  let left := place.drop (place.length - w.up)
  calc place <+: w.endFrom place
    _ ↔ kept ++ left <+: kept ++ w.down := by rw [List.take_append_drop, endFrom]
    _ ↔ left <+: w.down := List.prefix_append_right_inj kept

end Detour

variable {root : FilePath} {t u : FileTree} {locator : String}

theorem foldl_enter_filter (names : List String) (place : FilePath) :
    (names.filter fun name => name != ".").foldl enter place = names.foldl enter place := by
  induction names generalizing place with
  | nil => rfl
  | cons name rest ih =>
      by_cases here : name = "."
      · rw [List.filter_cons_of_neg (by simp [here]), ih, List.foldl_cons, enter, if_pos here]
      · rw [List.filter_cons_of_pos (by simp [here]), List.foldl_cons, ih, List.foldl_cons]

/-- A locator that begins with the components of a directory leads where the others lead from there. -/
theorem resolve_of_startsWith (plain : ∀ name ∈ root, name ≠ "." ∧ name ≠ "..")
    (begins : startsWith locator root = true) :
    ∃ below, (components locator).filter (fun name => name != ".") = root ++ below ∧
      resolve locator = (Detour.of below).endFrom root := by
  rw [startsWith, Bool.and_eq_true, List.isPrefixOf_iff_prefix] at begins
  obtain ⟨below, all⟩ := begins.2
  refine ⟨below, all.symm, ?_⟩
  rw [resolve, ← foldl_enter_filter, ← all, List.foldl_append, foldl_enter_plain plain, List.nil_append,
    Detour.of_endFrom]

/-- Whatever comes of a deletion, nothing else is deleted than what the locator spells. -/
theorem find?_of_remove {place : FilePath} (removed : t.remove locator = .ok u) :
    u.find? place = if place = resolve locator then none else t.find? place := by
  obtain ⟨open_, -, rfl⟩ := remove_eq_ok_iff.mp removed
  exact find?_erase t open_.resolve_ne_nil place

theorem delete_outside (outside : startsWith locator root = false) (t : FileTree) :
    ((storage root).delete locator).on t =
      (.error (.invalidValue "locator" "Locator is outside the storage root" locator), t) := by
  simp [storage, outside]

theorem delete_removed (begins : startsWith locator root = true) (removed : t.remove locator = .ok u) :
    ((storage root).delete locator).on t = (.ok (), u) := by
  simp [storage, begins, removed]

theorem delete_kept (begins : startsWith locator root = true) {fault : IoFault}
    (failed : t.remove locator = .error fault) :
    ((storage root).delete locator).on t = (if fault = .notFound then .ok () else .error (.io fault), t) := by
  cases fault <;> simp [storage, begins, failed]

/-- A deletion that is refused does nothing. Any other has a locator that begins with the directory's components, and
    it deletes the file that the locator spells and nothing else. That is in the directory exactly if the other
    components do not lead higher than the directory, or lead back by the names that they have left. -/
theorem delete_stays_inside_iff (plain : ∀ name ∈ root, name ≠ "." ∧ name ≠ "..") (t : FileTree) (locator : String) :
    let deleted := ((storage root).delete locator).on t
    let refused := Except.error (.invalidValue "locator" "Locator is outside the storage root" locator)
    (deleted.1 = refused → deleted.2 = t) ∧
    (deleted.1 ≠ refused → ∃ below, (components locator).filter (fun name => name != ".") = root ++ below ∧
      (root <+: resolve locator ↔
        root.drop (root.length - (Detour.of below).up) <+: (Detour.of below).down) ∧
      ∀ bytes, t.read locator = .ok bytes → deleted.1 = .ok () ∧ deleted.2.find? (resolve locator) = none) ∧
    ∀ place, place ≠ resolve locator → deleted.2.find? place = t.find? place := by
  intro deleted refused
  cases begins : startsWith locator root with
  | false =>
      rw [show deleted = _ from delete_outside begins t]
      exact ⟨fun _ => rfl, fun other => absurd rfl other, fun _ _ => rfl⟩
  | true =>
      obtain ⟨below, all, leads⟩ := resolve_of_startsWith plain begins
      have inside := leads ▸ (Detour.of below).prefix_endFrom_iff root
      cases removed : t.remove locator with
      | ok u =>
          rw [show deleted = _ from delete_removed begins removed]
          refine ⟨nofun, fun _ => ⟨below, all, inside, fun bytes _ => ⟨rfl, ?_⟩⟩, fun place other => ?_⟩
          · rw [find?_of_remove removed, if_pos rfl]
          · rw [find?_of_remove removed, if_neg other]
      | error fault =>
          rw [show deleted = _ from delete_kept begins removed]
          refine ⟨fun _ => rfl, fun _ => ⟨below, all, inside, fun bytes there => ?_⟩, fun _ _ => rfl⟩
          obtain ⟨open_, file⟩ := read_eq_ok_iff.mp there
          rw [remove_eq_ok_iff.mpr ⟨open_, ⟨bytes, file⟩, rfl⟩] at removed
          cases removed

/-- A directory for files, and a file beside it. -/
def guarded : FileTree :=
  ⟨[(["srv"], .directory), (["srv", "store"], .directory), (["srv", "store", "a.xlsx"], .file "a".toUTF8),
    (["srv", "secret"], .file "s".toUTF8)]⟩

theorem guarded_plain : ∀ name ∈ ["srv", "store"], name ≠ "." ∧ name ≠ ".." := by decide

theorem guarded_locate_a : guarded.locate "/srv/store/../store/a.xlsx" = .ok (["srv", "store"], some "a.xlsx") :=
  locate_eq_ok_iff.mpr ⟨by simp, by decide, rfl, by decide, rfl⟩

theorem guarded_read_a : guarded.read "/srv/store/../store/a.xlsx" = .ok "a".toUTF8 :=
  read_eq_ok_iff.mpr ⟨⟨_, _, guarded_locate_a, by decide, by decide +kernel⟩, rfl⟩

theorem guarded_locate_secret : guarded.locate "/srv/store/../secret" = .ok (["srv"], some "secret") :=
  locate_eq_ok_iff.mpr ⟨by simp, by decide, rfl, by decide, rfl⟩

theorem guarded_read_secret : guarded.read "/srv/store/../secret" = .ok "s".toUTF8 :=
  read_eq_ok_iff.mpr ⟨⟨_, _, guarded_locate_secret, by decide, by decide +kernel⟩, rfl⟩

/-- A locator that leads out of the directory and back deletes a file in it, and leaves the one beside it. -/
theorem delete_stays_inside_iff_back :
    let deleted := ((storage ["srv", "store"]).delete "/srv/store/../store/a.xlsx").on guarded
    deleted.1 = .ok () ∧ ["srv", "store"] <+: resolve "/srv/store/../store/a.xlsx" ∧
      deleted.2.find? ["srv", "store", "a.xlsx"] = none ∧
      deleted.2.find? ["srv", "secret"] = some (.file "s".toUTF8) := by
  intro deleted
  obtain ⟨-, accepted, elsewhere⟩ :=
    delete_stays_inside_iff guarded_plain guarded "/srv/store/../store/a.xlsx"
  have begins : startsWith "/srv/store/../store/a.xlsx" ["srv", "store"] = true := by decide +kernel
  obtain ⟨open_, file⟩ := read_eq_ok_iff.mp guarded_read_a
  have removed := delete_removed begins (remove_eq_ok_iff.mpr ⟨open_, ⟨_, file⟩, rfl⟩)
  obtain ⟨below, all, inside, gone⟩ := accepted (by rw [removed]; nofun)
  have spelled : ["srv", "store"] ++ ["..", "store", "a.xlsx"] = ["srv", "store"] ++ below := all
  obtain rfl := List.append_cancel_left spelled
  obtain ⟨done, there⟩ := gone _ guarded_read_a
  exact ⟨done, inside.mpr (by decide), there, (elsewhere ["srv", "secret"] (by decide)).trans rfl⟩

/-- A locator that leads out of the directory deletes a file beside it. -/
theorem delete_leaves_directory :
    let deleted := ((storage ["srv", "store"]).delete "/srv/store/../secret").on guarded
    deleted.1 = .ok () ∧ ¬["srv", "store"] <+: resolve "/srv/store/../secret" ∧
      guarded.find? ["srv", "secret"] = some (.file "s".toUTF8) ∧ deleted.2.find? ["srv", "secret"] = none := by
  have begins : startsWith "/srv/store/../secret" ["srv", "store"] = true := by decide +kernel
  obtain ⟨open_, file⟩ := read_eq_ok_iff.mp guarded_read_secret
  rw [delete_removed begins (remove_eq_ok_iff.mpr ⟨open_, ⟨_, file⟩, rfl⟩)]
  exact ⟨rfl, by decide, rfl, find?_erase guarded open_.resolve_ne_nil _⟩

end SheetExport.FileTree
