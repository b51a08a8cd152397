import SheetExport.Proofs.Storage.FileName
import SheetExport.Proofs.Storage.FileTree
import SheetExport.Proofs.Storage.Retrying
import SheetExport.Storage.Memory

/-! # What a save leaves behind

A storage saves what comes next in a content. One in memory saves as much as there is; one in a directory tells when
there is less than it was asked for, but has written that by then.
-/

namespace SheetExport

namespace Content

/-- How much of a content is left. -/
def left (c : Content) : Nat := c.bytes.size - c.position

theorem size_upcoming (c : Content) (n : Nat) : (c.upcoming n).size = min n c.left := by
  rw [upcoming, ByteArray.size_extract, left]
  omega

theorem size_upcoming_eq_iff (c : Content) (n : Nat) : (c.upcoming n).size = n ↔ n ≤ c.left := by
  rw [size_upcoming]
  omega

/-- The content after the next `n` bytes were read. -/
def past (c : Content) (n : Nat) : Content := { c with position := c.position + (c.upcoming n).size }

end Content

namespace MemoryFiles

/-- A save in memory, when it is for a file name. -/
theorem storage_save_on {name : String} (named : isFileName name = true) (contentType : String) (length : Nat)
    (files : MemoryFiles) (c : Content) :
    (storage.save name contentType length).on (files, c) =
      (.ok (locatorOf name), files.insert (locatorOf name) ⟨contentType, c.upcoming length⟩, c.past length) := by
  simp only [storage, demandFileName_ok named]
  rfl

theorem storage_save_refused {name : String} (unnamed : isFileName name = false) (contentType : String) (length : Nat)
    (files : MemoryFiles) (c : Content) :
    (storage.save name contentType length).on (files, c) =
      (.error (.invalidValue "file_name" "File name must not contain path separators" name), files, c) := by
  simp only [storage, demandFileName_refused unnamed]
  rfl

end MemoryFiles

namespace FileTree

variable {root : FilePath} {name : String} {length : Nat} {t u : FileTree} {c : Content} {fault : IoFault}

/-- The text for a file in a directory. -/
def locatorIn (root : FilePath) (name : String) : String := pathText root ++ "/" ++ name

theorem storage_save_refused (root : FilePath) (unnamed : isFileName name = false) (contentType : String) (length : Nat)
    (t : FileTree) (c : Content) :
    ((storage root).save name contentType length).on (t, c) =
      (.error (.invalidValue "file_name" "File name must not contain path separators" name), t, c) := by
  simp only [storage, demandFileName_refused unnamed]
  rfl

theorem change_ok {f : FileTree → Except IoFault FileTree} (done : f t = .ok u) (c : Content) :
    (change f).on (t, c) = (.ok (), u, c) := by
  simp only [change, ActionOf.on_of, done]

theorem change_error {f : FileTree → Except IoFault FileTree} (failed : f t = .error fault) (c : Content) :
    (change f).on (t, c) = (.error (.io fault), t, c) := by
  simp only [change, ActionOf.on_of, failed]

theorem storage_save_failed (named : isFileName name = true)
    (failed : t.write (locatorIn root name) (c.upcoming length) = .error fault) (contentType : String) :
    ((storage root).save name contentType length).on (t, c) = (.error (.io fault), t, c) := by
  simp only [storage, demandFileName_ok named]
  exact ActionOf.on_bind_error (change_error (write_eq_error failed .empty) c) _

theorem storage_save_wrote (named : isFileName name = true)
    (wrote : t.write (locatorIn root name) (c.upcoming length) = .ok u) (contentType : String) :
    ((storage root).save name contentType length).on (t, c) =
      (if length ≤ c.left then .ok (locatorIn root name) else .error (shortUpload name c.left length), u,
        c.past length) := by
  have made : t.write (locatorIn root name) .empty = .ok (t.insert (resolve (locatorIn root name)) (.file .empty)) := by
    obtain ⟨open_, file, -⟩ := write_eq_ok_iff.mp wrote
    exact write_eq_ok_iff.mpr ⟨open_, file, rfl⟩
  have filled := (write_again made (c.upcoming length)).trans wrote
  have taken (t : FileTree) : (Content.take length : Action (FileTree × Content) ByteArray).on (t, c) =
      (.ok (c.upcoming length), t, c.past length) := rfl
  simp only [storage, demandFileName_ok named]
  refine (ActionOf.on_bind_ok (change_ok made c) _).trans ((ActionOf.on_bind_ok (taken _) _).trans
    ((ActionOf.on_bind_ok (change_ok filled _) _).trans ?_))
  by_cases enough : length ≤ c.left
  · simp [(c.size_upcoming_eq_iff length).mpr enough, enough, locatorIn]
  · have short : (c.upcoming length).size = c.left := by
      rw [c.size_upcoming]
      omega
    have different : c.left ≠ length := by omega
    simp [short, enough, different]

/-- The three ways in which a save in a directory can go: its name is refused, there can be no such file, or the file is
    written with as much as there is. -/
theorem storage_save_cases (root : FilePath) (name contentType : String) (length : Nat) (t : FileTree) (c : Content) :
    let run := ((storage root).save name contentType length).on (t, c)
    (isFileName name = false ∧
        run = (.error (.invalidValue "file_name" "File name must not contain path separators" name), t, c)) ∨
      (∃ fault, isFileName name = true ∧ t.write (locatorIn root name) (c.upcoming length) = .error fault ∧
        run = (.error (.io fault), t, c)) ∨
      ∃ u, isFileName name = true ∧ t.write (locatorIn root name) (c.upcoming length) = .ok u ∧
        run = (if length ≤ c.left then .ok (locatorIn root name) else .error (shortUpload name c.left length), u,
          c.past length) := by
  intro run
  cases named : isFileName name with
  | false => exact .inl ⟨rfl, storage_save_refused root named contentType length t c⟩
  | true =>
      right
      cases written : t.write (locatorIn root name) (c.upcoming length) with
      | error fault => exact .inl ⟨fault, rfl, rfl, storage_save_failed named written contentType⟩
      | ok u => exact .inr ⟨u, rfl, rfl, storage_save_wrote named written contentType⟩

/-- In a directory, trying again changes nothing. -/
theorem retrying_save_on (root : FilePath) (maxAttempts : Nat) (name contentType : String) (length : Nat) (t : FileTree)
    (c : Content) :
    (((storage root).retrying maxAttempts).save name contentType length).on (t, c) =
      ((storage root).save name contentType length).on (t, c) := by
  rw [FileStorage.retrying_save_on]
  have first := FileStorage.rewound_on (storage root) name contentType length c.position t c
  rcases storage_save_cases root name contentType length t c with
    ⟨-, same⟩ | ⟨fault, -, -, same⟩ | ⟨u, named, wrote, same⟩
  · rw [same] at first ⊢
    exact FileStorage.attempts_repeated first first _
  · rw [same] at first ⊢
    exact FileStorage.attempts_repeated first first _
  · rw [same] at first ⊢
    refine FileStorage.attempts_repeated first ?_ _
    rw [FileStorage.rewound_on]
    exact storage_save_wrote named ((write_again wrote (c.upcoming length)).trans wrote) contentType

end FileTree

/-- What a save says is there is there, and it is all that was asked for: always so in a directory; in memory, exactly
    if as much was left of the content. -/
theorem saved_object_whole_iff (name contentType locator : String) (length : Nat) (c : Content) :
    (∀ (root : FilePath) (t : FileTree),
      let run := ((FileTree.storage root).save name contentType length).on (t, c)
      (run.1 = .ok locator ↔ isFileName name = true ∧ locator = FileTree.locatorIn root name ∧
        (∃ u, t.write locator (c.upcoming length) = .ok u) ∧ length ≤ c.left) ∧
      (run.1 = .ok locator →
        run.2.1.read locator = .ok (c.upcoming length) ∧ (c.upcoming length).size = length)) ∧
    ∀ files : MemoryFiles,
      let run := (MemoryFiles.storage.save name contentType length).on (files, c)
      (isFileName name = true → length ≤ c.left → run.1 = .ok (MemoryFiles.locatorOf name)) ∧
      (run.1 = .ok locator → run.2.1.find? locator = some ⟨contentType, c.upcoming length⟩ ∧
        ((c.upcoming length).size = length ↔ length ≤ c.left)) := by
  constructor
  · intro root t run
    rcases FileTree.storage_save_cases root name contentType length t c with
      ⟨unnamed, ran⟩ | ⟨fault, named, failed, ran⟩ | ⟨u, named, wrote, ran⟩
    · rw [show run = _ from ran]
      refine ⟨⟨fun saved => (nomatch saved), fun ⟨named, _⟩ => ?_⟩, fun saved => (nomatch saved)⟩
      exact absurd named (unnamed ▸ Bool.false_ne_true)
    · rw [show run = _ from ran]
      refine ⟨⟨fun saved => (nomatch saved), ?_⟩, fun saved => (nomatch saved)⟩
      rintro ⟨-, rfl, ⟨u, wrote⟩, -⟩
      rw [failed] at wrote
      cases wrote
    · rw [show run = _ from ran]
      by_cases enough : length ≤ c.left
      · rw [if_pos enough]
        refine ⟨⟨?_, fun ⟨_, same, _⟩ => same ▸ rfl⟩, ?_⟩
        · rintro ⟨⟩
          exact ⟨named, rfl, ⟨u, wrote⟩, enough⟩
        · rintro ⟨⟩
          exact ⟨FileTree.read_of_write wrote, (c.size_upcoming_eq_iff length).mpr enough⟩
      · rw [if_neg enough]
        refine ⟨⟨fun saved => (nomatch saved), ?_⟩, fun saved => (nomatch saved)⟩
        exact fun ⟨_, _, _, enough'⟩ => absurd enough' enough
  · intro files run
    refine ⟨fun named _ => ?_, fun saved => ?_⟩
    · rw [show run = _ from MemoryFiles.storage_save_on named contentType length files c]
    · cases named : isFileName name with
      | false =>
          rw [show run = _ from MemoryFiles.storage_save_refused named contentType length files c] at saved
          cases saved
      | true =>
          rw [show run = _ from MemoryFiles.storage_save_on named contentType length files c] at saved ⊢
          cases saved
          exact ⟨by rw [Keyed.find?_insert, if_pos rfl], c.size_upcoming_eq_iff length⟩

namespace FileTree

/-- A directory with a file of five bytes. -/
def shelf : FileTree := ⟨[(["store"], .directory), (["store", "a.xlsx"], .file "abcde".toUTF8)]⟩

theorem shelf_locate : shelf.locate "/store/a.xlsx" = .ok (["store"], some "a.xlsx") :=
  locate_eq_ok_iff.mpr ⟨by simp, by decide, rfl, by decide, rfl⟩

theorem shelf_reaches : shelf.Reaches "/store/a.xlsx" :=
  ⟨_, _, shelf_locate, by decide, by decide +kernel⟩

theorem shelf_read : shelf.read "/store/a.xlsx" = .ok "abcde".toUTF8 :=
  read_eq_ok_iff.mpr ⟨shelf_reaches, rfl⟩

theorem shelf_write (bytes : ByteArray) :
    shelf.write "/store/a.xlsx" bytes = .ok (shelf.insert ["store", "a.xlsx"] (.file bytes)) :=
  write_eq_ok_iff.mpr ⟨shelf_reaches, by rw [(read_eq_ok_iff.mp shelf_read).2]; simp, rfl⟩

end FileTree

theorem isFileName_a : isFileName "a.xlsx" = true := by simp [isFileName]

/-- Three bytes from the middle of a content are saved, in place of a file in a directory and in memory. -/
theorem saved_object_whole_iff_middle :
    let c : Content := ⟨"abcde".toUTF8, 1⟩
    let written := ((FileTree.storage ["store"]).save "a.xlsx" spreadsheetType 3).on (FileTree.shelf, c)
    let kept := (MemoryFiles.storage.save "a.xlsx" spreadsheetType 3).on ([], c)
    (written.1 = .ok "/store/a.xlsx" ∧ written.2.1.read "/store/a.xlsx" = .ok "bcd".toUTF8) ∧
      kept.1 = .ok "memory://a.xlsx" ∧ kept.2.1.find? "memory://a.xlsx" = some ⟨spreadsheetType, "bcd".toUTF8⟩ := by
  intro c written kept
  have next : c.upcoming 3 = "bcd".toUTF8 := by decide +kernel
  have enough : 3 ≤ c.left := by decide +kernel
  constructor
  · obtain ⟨saves, whole⟩ :=
      (saved_object_whole_iff "a.xlsx" spreadsheetType "/store/a.xlsx" 3 c).1 ["store"] FileTree.shelf
    have saved := saves.mpr ⟨isFileName_a, by decide, ⟨_, FileTree.shelf_write _⟩, enough⟩
    exact ⟨saved, next ▸ (whole saved).1⟩
  · obtain ⟨saves, whole⟩ := (saved_object_whole_iff "a.xlsx" spreadsheetType "memory://a.xlsx" 3 c).2 []
    have saved := saves isFileName_a enough
    exact ⟨saved, next ▸ (whole saved).1⟩

/-- Three bytes are saved in memory as if they were the five that were asked for. -/
theorem short_content_saved :
    let run := (MemoryFiles.storage.save "a.xlsx" spreadsheetType 5).on ([], ⟨"abc".toUTF8, 0⟩)
    run.1 = .ok "memory://a.xlsx" ∧
      ∃ file, run.2.1.find? "memory://a.xlsx" = some file ∧ file.bytes = "abc".toUTF8 ∧ file.bytes.size ≠ 5 := by
  have next : (⟨"abc".toUTF8, 0⟩ : Content).upcoming 5 = "abc".toUTF8 := by decide +kernel
  rw [MemoryFiles.storage_save_on isFileName_a, next]
  exact ⟨rfl, _, rfl, rfl, by decide +kernel⟩

/-- A save in a directory that fails leaves every file as it was, unless it fails because the content is too short: then
    it leaves the bytes that there were in the place of the file, and everything is as it was only if they were
    there before. Trying again makes no difference. -/
theorem failed_save_keeps_files_iff {root : FilePath} {name contentType : String} {length : Nat} {t u : FileTree}
    {c d : Content} {e : ExportError}
    (failed : ((FileTree.storage root).save name contentType length).on (t, c) = (.error e, u, d)) :
    let locator := FileTree.locatorIn root name
    ((∀ place, u.find? place = t.find? place) ↔
      e ≠ FileTree.shortUpload name c.left length ∨ t.read locator = .ok (c.upcoming length)) ∧
    (e = FileTree.shortUpload name c.left length → c.left < length ∧ u.read locator = .ok (c.upcoming length) ∧
      (∀ place, place ≠ FileTree.resolve locator → u.find? place = t.find? place) ∧
      ((∀ part ∈ root, isFileName part = true) → FileTree.resolve locator = root ++ [name])) ∧
    ∀ maxAttempts, (((FileTree.storage root).retrying maxAttempts).save name contentType length).on (t, c) =
      (.error e, u, d) := by
  intro locator
  rw [← and_assoc]
  refine ⟨?_, fun maxAttempts => (FileTree.retrying_save_on root maxAttempts name contentType length t c).trans failed⟩
  rcases FileTree.storage_save_cases root name contentType length t c with
    ⟨-, ran⟩ | ⟨fault, -, -, ran⟩ | ⟨v, named, wrote, ran⟩
  · cases ran.symm.trans failed
    have other : ExportError.invalidValue "file_name" "File name must not contain path separators" name ≠
      FileTree.shortUpload name c.left length := nofun
    exact ⟨⟨fun _ => .inl other, fun _ _ => rfl⟩, fun short => absurd short other⟩
  · cases ran.symm.trans failed
    have other : ExportError.io fault ≠ FileTree.shortUpload name c.left length := nofun
    exact ⟨⟨fun _ => .inl other, fun _ _ => rfl⟩, fun short => absurd short other⟩
  · have ends := ran.symm.trans failed
    by_cases enough : length ≤ c.left
    · rw [if_pos enough] at ends
      cases ends
    · rw [if_neg enough] at ends
      cases ends
      refine ⟨?_, fun _ => ⟨Nat.lt_of_not_le enough, FileTree.read_of_write wrote, fun place =>
        FileTree.find?_of_write wrote, fun plain => FileTree.resolve_pathText plain named⟩⟩
      rw [FileTree.write_keeps_iff wrote]
      exact ⟨.inr, fun kept => kept.resolve_left fun other => other rfl⟩

/-- A short save of what is in the file already leaves all as it was, however often it is tried. -/
theorem failed_save_keeps_files_iff_again :
    let c : Content := ⟨"abcde".toUTF8, 0⟩
    ∃ e u d, ((FileTree.storage ["store"]).save "a.xlsx" spreadsheetType 9).on (FileTree.shelf, c) = (.error e, u, d) ∧
      (∀ place, u.find? place = FileTree.shelf.find? place) ∧
      (((FileTree.storage ["store"]).retrying 3).save "a.xlsx" spreadsheetType 9).on (FileTree.shelf, c) =
        (.error e, u, d) := by
  intro c
  have next : c.upcoming 9 = "abcde".toUTF8 := by decide +kernel
  have wrote : FileTree.shelf.write (FileTree.locatorIn ["store"] "a.xlsx") (c.upcoming 9) = _ := FileTree.shelf_write _
  have failed := FileTree.storage_save_wrote isFileName_a wrote spreadsheetType
  rw [if_neg (by decide +kernel)] at failed
  obtain ⟨keeps, -, again⟩ := failed_save_keeps_files_iff failed
  exact ⟨_, _, _, failed, keeps.mpr (.inr (next ▸ FileTree.shelf_read)), again 3⟩

/-- A short save leaves three bytes in the place of five. -/
theorem short_save_truncates :
    let run := ((FileTree.storage ["store"]).save "a.xlsx" spreadsheetType 5).on (FileTree.shelf, ⟨"abc".toUTF8, 0⟩)
    run.1 = .error (.storage "short upload for a.xlsx: 3 of 5 bytes") ∧
      FileTree.shelf.read "/store/a.xlsx" = .ok "abcde".toUTF8 ∧ run.2.1.read "/store/a.xlsx" = .ok "abc".toUTF8 := by
  let c : Content := ⟨"abc".toUTF8, 0⟩
  have next : c.upcoming 5 = "abc".toUTF8 := by decide +kernel
  have wrote : FileTree.shelf.write (FileTree.locatorIn ["store"] "a.xlsx") (c.upcoming 5) = _ := FileTree.shelf_write _
  rw [FileTree.storage_save_wrote isFileName_a wrote, if_neg (by decide +kernel)]
  exact ⟨by decide +kernel, FileTree.shelf_read, next ▸ FileTree.read_of_write wrote⟩

end SheetExport
