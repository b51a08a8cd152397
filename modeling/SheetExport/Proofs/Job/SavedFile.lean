import SheetExport.Job.Worker
import SheetExport.Proofs.Sheet.Name
import SheetExport.Proofs.Storage.Saving

/-! # The file of a job

The name of the file that a worker saves is made of a mended sheet name and the identifier of the job. It is accepted
whatever the sheet is called: mending leaves no slash and no NUL, the dots are taken by the ending, and 31 characters
are at most 124 bytes.
-/

namespace SheetExport

/-! ## Sizes of texts -/

theorem utf8ByteSize_ofList_cons (c : Char) (cs : List Char) :
    (String.ofList (c :: cs)).utf8ByteSize = c.utf8Size + (String.ofList cs).utf8ByteSize := by
  have split : String.ofList (c :: cs) = String.singleton c ++ String.ofList cs := by simp
  rw [split, String.utf8ByteSize_append, String.utf8ByteSize_singleton]

/-- A text of so many characters that take so many bytes each, at most. -/
theorem utf8ByteSize_le {width : Nat} (s : String) (narrow : ∀ c ∈ s.toList, c.utf8Size ≤ width) :
    s.utf8ByteSize ≤ width * s.toList.length := by
  obtain ⟨cs, rfl⟩ : ∃ cs, s = String.ofList cs := ⟨s.toList, String.ofList_toList.symm⟩
  rw [String.toList_ofList] at narrow ⊢
  induction cs with
  | nil => simp
  | cons c cs ih =>
      have first := narrow c List.mem_cons_self
      have rest := ih fun d inside => narrow d (List.mem_cons_of_mem c inside)
      rw [utf8ByteSize_ofList_cons, List.length_cons, Nat.mul_succ]
      omega

/-! ## Identifiers -/

/-- The text of a UUID: 36 characters, hyphens after 8, 12, 16 and 20 digits of base 16. -/
def IsUuid (id : String) : Prop :=
  id.toList.length = 36 ∧ ∀ place < 36,
    if place ∈ [8, 13, 18, 23] then id.toList[place]? = some '-' else id.toList[place]?.any Text.isHexDigit = true

variable {id : String} {c : Char}

theorem IsUuid.char (uuid : IsUuid id) (inside : c ∈ id.toList) : c = '-' ∨ Text.isHexDigit c = true := by
  obtain ⟨place, there⟩ := List.getElem?_of_mem inside
  have below : place < 36 := uuid.1 ▸ (List.getElem?_eq_some_iff.mp there).1
  have made := uuid.2 place below
  rw [there] at made
  split at made
  · exact .inl (Option.some.inj made)
  · exact .inr made

theorem isHexDigit_le (digit : Text.isHexDigit c = true) : '0' ≤ c ∧ c ≤ 'f' := by
  simp [Text.isHexDigit, Text.isDigit, Char.le_def, UInt32.le_iff_toNat_le] at digit ⊢
  omega

theorem utf8Size_of_le (low : c ≤ 'f') : c.utf8Size ≤ 1 :=
  Nat.le_of_eq (Char.utf8Size_eq_one_iff.mpr (UInt32.le_trans low (by decide)))

/-! ## Names of files -/

namespace Worker

variable (sheetName : String)

theorem toList_fileName (id : String) :
    (fileName sheetName id).toList =
      (mendSheetName sheetName).toList ++ '-' :: (id.toList ++ ['.', 'x', 'l', 's', 'x']) := by
  simp [fileName]

theorem fileName_char (uuid : IsUuid id) (inside : c ∈ (fileName sheetName id).toList) : c ≠ '/' ∧ c ≠ '\x00' := by
  obtain ⟨-, -, allowed, -⟩ := isSheetName_mendSheetName sheetName
  rw [toList_fileName, List.mem_append, List.mem_cons, List.mem_append] at inside
  rcases inside with mended | rfl | own | ending
  · have fine := allowed c mended
    constructor <;> rintro rfl <;> exact absurd fine (by decide)
  · decide
  · rcases uuid.char own with rfl | digit
    · decide
    · have low := (isHexDigit_le digit).1
      constructor <;> rintro rfl <;> exact absurd low (by decide)
  · simp only [List.mem_cons, List.not_mem_nil, or_false] at ending
    rcases ending with rfl | rfl | rfl | rfl | rfl <;> decide

theorem length_fileName (uuid : IsUuid id) :
    43 ≤ (fileName sheetName id).toList.length := by
  obtain ⟨long, -⟩ := isSheetName_mendSheetName sheetName
  rw [toList_fileName]
  simp only [List.length_append, List.length_cons, List.length_nil, uuid.1]
  omega

theorem isFileName_fileName (uuid : IsUuid id) : isFileName (fileName sheetName id) = true := by
  have long := length_fileName sheetName uuid
  refine isFileName_iff.mpr ⟨?_, fun slash => (fileName_char sheetName uuid slash).1 rfl, ?_, ?_⟩ <;> intro same <;>
    exact absurd (same ▸ long) (by decide)

/-- At most 31 characters of four bytes, and 42 of one. -/
theorem utf8ByteSize_fileName (uuid : IsUuid id) : (fileName sheetName id).utf8ByteSize ≤ 255 := by
  have mended : (mendSheetName sheetName).utf8ByteSize ≤ 4 * 31 :=
    Nat.le_trans (utf8ByteSize_le _ fun c _ => c.utf8Size_le_four)
      (Nat.mul_le_mul_left 4 (isSheetName_mendSheetName sheetName).2.1)
  have own : id.utf8ByteSize ≤ 1 * 36 := by
    rw [← uuid.1]
    refine utf8ByteSize_le id fun c inside => ?_
    rcases uuid.char inside with rfl | digit
    · decide
    · exact utf8Size_of_le (isHexDigit_le digit).2
  simp only [fileName, String.utf8ByteSize_append]
  have dash : "-".utf8ByteSize = 1 := by decide
  have ending : ".xlsx".utf8ByteSize = 5 := by decide
  omega

end Worker

/-! ## Storages -/

namespace FileTree

variable {t : FileTree} {root directory : FilePath} {name : String}

/-- A directory with room for a file of any name: it is there, and its own text leaves room for one. -/
structure Roomy (t : FileTree) (root directory : FilePath) : Prop where
  there : t.walk [] (components (pathText root)) = .ok directory
  plain : '\x00' ∉ (pathText root).toList
  short : (pathText root).utf8ByteSize + 1 + maxNameBytes ≤ maxPathBytes

theorem open_name (named : isFileName name = true) (text : String) : (text ++ "/" ++ name).endsWith "/" = false := by
  obtain ⟨some_, whole, -⟩ := isFileName_iff.mp named
  have last : (text ++ "/" ++ name).toList.getLast? = name.toList.getLast? := by
    rw [String.toList_append, List.getLast?_append, List.getLast?_eq_some_getLast (by simpa using some_),
      Option.some_or]
  rw [String.endsWith_eq_endsWith_toSlice, String.Slice.endsWith_string_eq_false_iff, String.copy_toSlice]
  rintro ⟨front, ends⟩
  refine whole (List.mem_of_getLast? (last.symm.trans ?_))
  rw [← ends]
  exact List.getLast?_concat

/-- A file name at the end of a text leads one step further. -/
theorem resolve_name (named : isFileName name = true) (text : String) :
    resolve (text ++ "/" ++ name) = resolve text ++ [name] := by
  have plain := plain_of_isFileName named
  rw [resolve, components_slash, components_name named, List.foldl_append, List.foldl_cons, List.foldl_nil, enter,
    if_neg plain.1, if_neg plain.2, resolve]

theorem Roomy.locate (roomy : t.Roomy root directory) (named : isFileName name = true) (plain : '\x00' ∉ name.toList)
    (short : name.utf8ByteSize ≤ maxNameBytes) : t.locate (locatorIn root name) = .ok (directory, some name) := by
  have pieces : components (locatorIn root name) = components (pathText root) ++ [name] := by
    rw [locatorIn, components_slash, components_name named]
  refine locate_eq_ok_iff.mpr ⟨?_, ?_, ?_, plain_of_isFileName named, ?_⟩
  · have apart := roomy.plain
    rw [String.contains_char_eq, locatorIn, decide_eq_false_iff_not]
    simp [plain, apart]
  · have room := roomy.short
    have slash : "/".utf8ByteSize = 1 := by decide
    rw [locatorIn, String.utf8ByteSize_append, String.utf8ByteSize_append]
    omega
  · rw [pieces, List.getLast?_concat]
  · rw [pieces, List.dropLast_concat, roomy.there]

theorem Roomy.exists_write (roomy : t.Roomy root directory) (named : isFileName name = true)
    (plain : '\x00' ∉ name.toList) (short : name.utf8ByteSize ≤ maxNameBytes)
    (free : t.find? (directory ++ [name]) ≠ some .directory) (bytes : ByteArray) :
    ∃ u, t.write (locatorIn root name) bytes = .ok u := by
  have located := roomy.locate named plain short
  refine ⟨_, write_eq_ok_iff.mpr ⟨⟨directory, name, located, short, open_name named (pathText root)⟩, ?_, rfl⟩⟩
  rwa [locate_resolves located]

end FileTree

theorem Content.upcoming_all (bytes : ByteArray) : (⟨bytes, 0⟩ : Content).upcoming bytes.size = bytes := by
  simp [Content.upcoming]

/-- A name is accepted exactly if it is neither empty nor one of the dots and has no slash in it; on a way that ends in
    it, it is one more part, and the file one step further. The name of the file of a job is accepted whatever the
    sheet is called. It has no NUL in it and not more than 255 bytes, so a storage in memory always saves the file, and
    one in a directory does unless the system has another reason: if the directory is there, with room for any
    name, and no directory stands in the place of the file. -/
theorem job_file_accepted :
    (∀ name,
      (demandFileName name = .ok () ↔ name ≠ "" ∧ '/' ∉ name.toList ∧ name ≠ "." ∧ name ≠ "..") ∧
      (demandFileName name ≠ .ok () → demandFileName name =
        .error (.invalidValue "file_name" "File name must not contain path separators" name)) ∧
      (demandFileName name = .ok () → ∀ root, root ≠ "" →
        wayParts (root ++ "/" ++ name) = wayParts root ++ [.name name] ∧
        FileTree.resolve (root ++ "/" ++ name) = FileTree.resolve root ++ [name])) ∧
    ∀ sheetName id, IsUuid id →
      let file := Worker.fileName sheetName id
      demandFileName file = .ok () ∧ '\x00' ∉ file.toList ∧ file.utf8ByteSize ≤ 255 ∧
      ∀ bytes : ByteArray,
        (∀ files, ((MemoryFiles.storage.save file spreadsheetType bytes.size).on (files, ⟨bytes, 0⟩)).1 =
          .ok (MemoryFiles.locatorOf file)) ∧
        ∀ (root : FilePath) (t : FileTree),
          let run := ((FileTree.storage root).save file spreadsheetType bytes.size).on (t, ⟨bytes, 0⟩)
          (∀ e, run.1 = .error e → ∃ fault, e = .io fault) ∧
          ∀ directory, t.Roomy root directory → t.find? (directory ++ [file]) ≠ some .directory →
            run.1 = .ok (FileTree.locatorIn root file) := by
  constructor
  · intro name
    rw [demandFileName_eq_ok_iff]
    refine ⟨isFileName_iff, fun refused => ?_, fun named root some_ =>
      ⟨wayParts_append named some_, FileTree.resolve_name named root⟩⟩
    exact demandFileName_refused (Bool.eq_false_iff.mpr fun named => refused (demandFileName_ok named))
  · intro sheetName id uuid file
    have named : isFileName file = true := Worker.isFileName_fileName sheetName uuid
    have plain : '\x00' ∉ file.toList := fun nul => (Worker.fileName_char sheetName uuid nul).2 rfl
    have short : file.utf8ByteSize ≤ 255 := Worker.utf8ByteSize_fileName sheetName uuid
    refine ⟨demandFileName_ok named, plain, short, fun bytes => ⟨fun files => ?_, fun root t => ?_⟩⟩
    · rw [MemoryFiles.storage_save_on named]
    · intro run
      have enough : bytes.size ≤ (⟨bytes, 0⟩ : Content).left := Nat.le_refl _
      constructor
      · intro e failed
        rcases FileTree.storage_save_cases root file spreadsheetType bytes.size t ⟨bytes, 0⟩ with
          ⟨unnamed, -⟩ | ⟨fault, -, -, ran⟩ | ⟨u, -, -, ran⟩
        · exact absurd named (Bool.eq_false_iff.mp unnamed)
        · rw [show run = _ from ran] at failed
          exact ⟨fault, (Except.error.inj failed).symm⟩
        · rw [show run = _ from ran, if_pos enough] at failed
          cases failed
      · intro directory roomy free
        obtain ⟨u, wrote⟩ := roomy.exists_write named plain short free bytes
        rw [← Content.upcoming_all bytes] at wrote
        rw [show run = _ from FileTree.storage_save_wrote named wrote spreadsheetType, if_pos enough]

theorem isUuid_sample : IsUuid "0f8fad5b-d9cb-469f-a165-70867728950e" := ⟨by decide +kernel, by decide +kernel⟩

theorem shelf_roomy : FileTree.shelf.Roomy ["store"] ["store"] where
  there := by decide +kernel
  plain := by decide +kernel
  short := by decide +kernel

/-- A sheet whose name is a way upwards has a file like any other. -/
theorem job_file_accepted_upwards :
    let file := Worker.fileName "../Q1/'" "0f8fad5b-d9cb-469f-a165-70867728950e"
    file = ".. Q1  -0f8fad5b-d9cb-469f-a165-70867728950e.xlsx" ∧
      wayParts ("/store" ++ "/" ++ file) = [.root, .name "store", .name file] ∧
      ((MemoryFiles.storage.save file spreadsheetType 3).on ([], ⟨"abc".toUTF8, 0⟩)).1 =
        .ok (MemoryFiles.locatorOf file) ∧
      (((FileTree.storage ["store"]).save file spreadsheetType 3).on (FileTree.shelf, ⟨"abc".toUTF8, 0⟩)).1 =
        .ok (FileTree.locatorIn ["store"] file) := by
  intro file
  obtain ⟨names, files⟩ := job_file_accepted
  obtain ⟨accepted, -, -, saved⟩ := files "../Q1/'" _ isUuid_sample
  have free : FileTree.shelf.find? (["store"] ++ [file]) = none :=
    Option.isNone_iff_eq_none.mp (by decide +kernel)
  have three := saved "abc".toUTF8
  rw [show "abc".toUTF8.size = 3 by decide +kernel, show Worker.fileName _ _ = file from rfl] at three
  obtain ⟨memory, directory⟩ := three
  refine ⟨by decide +kernel, ?_, memory [], ?_⟩
  · exact ((names file).2.2 accepted "/store" (by decide)).1
  · exact (directory ["store"] FileTree.shelf).2 ["store"] shelf_roomy (by rw [free]; nofun)

end SheetExport
