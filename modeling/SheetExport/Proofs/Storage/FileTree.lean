import Mathlib.Data.List.Induction
import SheetExport.Proofs.Keyed
import SheetExport.Storage.Local

/-! # What texts name in a tree of files

Without links, the place that the system finds for a text is the one that its components spell, with `.` and `..`
resolved without a look at the tree. A tree only decides whether the place can be reached. So what is read, written and
removed under a text is what is at its place, and nothing else is touched.
-/

namespace SheetExport.FileTree

variable {t u : FileTree} {text : String} {bytes : ByteArray} {place path directory : FilePath} {name : String}
  {names : List String}

/-! ## Looking up places -/

theorem find?_erase (t : FileTree) (inside : path ≠ []) (place : FilePath) :
    (t.erase path).find? place = if place = path then none else t.find? place := by
  by_cases top : place = []
  · subst top
    rw [if_neg (Ne.symm inside)]
    rfl
  · simp only [find?, if_neg top, erase, Keyed.lookup_filter_ne, beq_iff_eq]

theorem find?_insert (t : FileTree) (inside : path ≠ []) (node : FileNode) (place : FilePath) :
    (t.insert path node).find? place = if place = path then some node else t.find? place := by
  by_cases top : place = []
  · subst top
    rw [if_neg (Ne.symm inside)]
    rfl
  · simp only [find?, if_neg top, insert, erase, List.lookup_append, Keyed.lookup_filter_ne, beq_iff_eq]
    by_cases same : place = path
    · simp [same]
    · simp [same, List.lookup_cons, beq_false_of_ne same]

/-- What is put at a place last is all that stays there. -/
theorem insert_insert (t : FileTree) (path : FilePath) (first last : FileNode) :
    (t.insert path first).insert path last = t.insert path last := by
  simp [insert, erase, List.filter_append, List.filter_filter]

/-! ## Places that texts spell -/

/-- Where a component leads to from a place. -/
def enter (place : FilePath) (name : String) : FilePath :=
  if name = "." then place else if name = ".." then place.dropLast else place ++ [name]

/-- The place that a text spells, whatever is there. -/
def resolve (text : String) : FilePath := (components text).foldl enter []

/-- A name that is neither `.` nor `..` leads to a directory that must be there. -/
theorem walk_name (plain : name ≠ "." ∧ name ≠ "..") :
    t.walk place (name :: names) = .ok directory ↔
      name.utf8ByteSize ≤ maxNameBytes ∧ t.find? (place ++ [name]) = some .directory ∧
        t.walk (place ++ [name]) names = .ok directory := by
  rw [walk, if_neg plain.1, if_neg plain.2, entry]
  by_cases long : maxNameBytes < name.utf8ByteSize
  · simp [long, Nat.not_le.mpr long]
  · simp only [if_neg long, Nat.not_lt.mp long, true_and]
    cases there : t.find? (place ++ [name]) with
    | none => simp
    | some node => cases node <;> simp

/-- The system finds the place that the components spell. -/
theorem walk_resolves (walked : t.walk place names = .ok directory) : names.foldl enter place = directory := by
  induction names generalizing place with
  | nil => exact Except.ok.inj walked
  | cons name rest ih =>
      rw [List.foldl_cons]
      by_cases here : name = "."
      · subst here
        exact ih walked
      · by_cases up : name = ".."
        · subst up
          exact ih walked
        · rw [enter, if_neg here, if_neg up]
          exact ih ((walk_name ⟨here, up⟩).mp walked).2.2

/-- Whatever is a directory in one tree is one in another. -/
def DirectoriesIn (t u : FileTree) : Prop :=
  ∀ place, t.find? place = some .directory → u.find? place = some .directory

/-- A way over directories stays open as long as they are there. -/
theorem walk_in (kept : t.DirectoriesIn u) (walked : t.walk place names = .ok directory) :
    u.walk place names = .ok directory := by
  induction names generalizing place with
  | nil => exact walked
  | cons name rest ih =>
      by_cases here : name = "."
      · subst here
        exact ih walked
      · by_cases up : name = ".."
        · subst up
          exact ih walked
        · obtain ⟨short, there, further⟩ := (walk_name ⟨here, up⟩).mp walked
          exact (walk_name ⟨here, up⟩).mpr ⟨short, kept _ there, ih further⟩

theorem locate_eq_ok_iff :
    t.locate text = .ok (directory, some name) ↔
      text.contains '\x00' = false ∧ text.utf8ByteSize ≤ maxPathBytes ∧ (components text).getLast? = some name ∧
        (name ≠ "." ∧ name ≠ "..") ∧ t.walk [] (components text).dropLast = .ok directory := by
  rw [locate]
  by_cases nul : text.contains '\x00' = true
  · simp [nul]
  · by_cases long : maxPathBytes < text.utf8ByteSize
    · simp [nul, long, Nat.not_le.mpr long]
    · simp only [nul, if_neg long, Nat.not_lt.mp long]
      cases last : (components text).getLast? with
      | none => simp
      | some final =>
          cases walked : t.walk [] (components text).dropLast with
          | error fault => simp [bind, Except.bind]
          | ok found =>
              by_cases dots : final = "." ∨ final = ".."
              · have different : final = name → ¬(name ≠ "." ∧ name ≠ "..") := by
                  rintro rfl ⟨here, up⟩
                  exact dots.elim here up
                cases again : t.walk found [final] <;>
                  simpa [dots, again, bind, Except.bind, pure, Except.pure] using
                    fun same here up _ => different same ⟨here, up⟩
              · obtain ⟨here, up⟩ := not_or.mp dots
                have found_iff : (found = directory ∧ final = name) ↔
                    final = name ∧ (name ≠ "." ∧ name ≠ "..") ∧ found = directory :=
                  ⟨fun ⟨place, same⟩ => ⟨same, same ▸ ⟨here, up⟩, place⟩, fun ⟨same, _, place⟩ => ⟨place, same⟩⟩
                simpa [here, up, bind, Except.bind, pure, Except.pure] using found_iff

theorem locate_resolves (located : t.locate text = .ok (directory, some name)) :
    resolve text = directory ++ [name] := by
  obtain ⟨-, -, last, plain, walked⟩ := locate_eq_ok_iff.mp located
  obtain ⟨rest, all⟩ := List.getLast?_eq_some_iff.mp last
  rw [all, List.dropLast_concat] at walked
  rw [resolve, all, List.foldl_append, walk_resolves walked]
  exact (if_neg plain.1).trans (if_neg plain.2)

/-- The way to the place of a text is open. -/
def Reaches (t : FileTree) (text : String) : Prop :=
  ∃ directory name, t.locate text = .ok (directory, some name) ∧ name.utf8ByteSize ≤ maxNameBytes ∧
    text.endsWith "/" = false

theorem Reaches.resolve_ne_nil (open_ : t.Reaches text) : resolve text ≠ [] := by
  obtain ⟨directory, name, located, -⟩ := open_
  rw [locate_resolves located]
  exact List.append_ne_nil_of_right_ne_nil directory (List.cons_ne_nil name [])

theorem Reaches.closed (open_ : t.Reaches text) : text.endsWith "/" = false := by
  obtain ⟨_, _, _, _, closed⟩ := open_
  exact closed

theorem Reaches.in (open_ : t.Reaches text) (kept : t.DirectoriesIn u) : u.Reaches text := by
  obtain ⟨directory, name, located, short⟩ := open_
  obtain ⟨nul, long, last, plain, walked⟩ := locate_eq_ok_iff.mp located
  exact ⟨directory, name, locate_eq_ok_iff.mpr ⟨nul, long, last, plain, walk_in kept walked⟩, short⟩

/-! ## Texts for places -/

theorem components_slash (front back : String) :
    components (front ++ "/" ++ back) = components front ++ components back := by
  have parted : (front ++ "/" ++ back).toList = front.toList ++ '/' :: back.toList := by simp
  rw [components, parted, List.splitOn_append_cons_self, List.map_append, List.filter_append]
  rfl

/-- A file name is none of the components with a meaning of their own, and one component only. -/
theorem plain_of_isFileName (named : isFileName name = true) : name ≠ "." ∧ name ≠ ".." := by
  simp [isFileName] at named
  exact ⟨named.1.2, named.2⟩

theorem components_name (named : isFileName name = true) : components name = [name] := by
  simp [isFileName] at named
  obtain ⟨⟨⟨some_, whole⟩, -⟩, -⟩ := named
  rw [components, List.splitOn_eq_singleton whole]
  simp [some_]

theorem pathText_concat (path : FilePath) (name : String) : pathText (path ++ [name]) = pathText path ++ "/" ++ name := by
  simp [pathText, String.join_append, String.append_assoc]

theorem components_pathText {path : FilePath} (plain : ∀ name ∈ path, isFileName name = true) :
    components (pathText path) = path := by
  induction path using List.reverseRecOn with
  | nil => rfl
  | append_singleton path name ih =>
      rw [List.forall_mem_append, List.forall_mem_singleton] at plain
      rw [pathText_concat, components_slash, ih plain.1, components_name plain.2]

theorem foldl_enter_plain (plain : ∀ name ∈ names, name ≠ "." ∧ name ≠ "..") (place : FilePath) :
    names.foldl enter place = place ++ names := by
  induction names generalizing place with
  | nil => exact (List.append_nil place).symm
  | cons name rest ih =>
      have named := plain name List.mem_cons_self
      rw [List.foldl_cons, ih fun name inside => plain name (List.mem_cons_of_mem _ inside), enter, if_neg named.1,
        if_neg named.2, List.append_assoc, List.singleton_append]

/-- A file in a directory is where its text says. -/
theorem resolve_pathText {root : FilePath} (plain : ∀ name ∈ root, isFileName name = true)
    (named : isFileName name = true) : resolve (pathText root ++ "/" ++ name) = root ++ [name] := by
  rw [resolve, components_slash, components_pathText plain, components_name named, foldl_enter_plain]
  · rfl
  · intro name inside
    rcases List.mem_append.mp inside with above | last
    · exact plain_of_isFileName (plain name above)
    · exact List.mem_singleton.mp last ▸ plain_of_isFileName named

/-! ## Reading, writing and removing -/

/-- What a text names is looked up, and something is done with its place and what is there. -/
def atPlace {α : Type} (t : FileTree) (text : String) (act : FilePath → Option FileNode → Except IoFault α) :
    Except IoFault α := do
  match ← t.locate text with
  | (_, none) => throw .isDirectory
  | (directory, some name) => act (directory ++ [name]) (← t.entry directory name)

/-- If it comes through, then at the place that the text spells. -/
theorem atPlace_eq_ok_iff {α : Type} {act : FilePath → Option FileNode → Except IoFault α} {a : α}
    (closed : text.endsWith "/" = true → ∀ place node, act place node ≠ .ok a) :
    t.atPlace text act = .ok a ↔ t.Reaches text ∧ act (resolve text) (t.find? (resolve text)) = .ok a := by
  constructor
  · intro came
    rcases located : t.locate text with fault | ⟨directory, _ | name⟩ <;> rw [atPlace, located] at came
    · cases came
    · cases came
    · have place := locate_resolves located
      by_cases long : maxNameBytes < name.utf8ByteSize
      · simp [entry, long, bind, Except.bind] at came
      · replace came : act (directory ++ [name]) (t.find? (directory ++ [name])) = .ok a := by
          simpa [entry, long, bind, Except.bind] using came
        rw [place]
        exact ⟨⟨directory, name, located, Nat.not_lt.mp long, Bool.eq_false_iff.mpr fun ends =>
          closed ends _ _ came⟩, came⟩
  · rintro ⟨⟨directory, name, located, short, -⟩, came⟩
    rw [locate_resolves located] at came
    simpa [atPlace, located, entry, Nat.not_lt.mpr short, bind, Except.bind] using came

theorem atPlace_eq_error {α : Type} {act other : FilePath → Option FileNode → Except IoFault α} {fault : IoFault}
    (same : ∀ place node, act place node = .error fault → other place node = .error fault)
    (failed : t.atPlace text act = .error fault) : t.atPlace text other = .error fault := by
  rcases located : t.locate text with _ | ⟨directory, _ | name⟩ <;> rw [atPlace, located] at failed ⊢
  · exact failed
  · exact failed
  · cases entered : t.entry directory name with
    | error _ => simpa [entered, bind, Except.bind] using failed
    | ok node =>
        simp only [entered, bind, Except.bind] at failed ⊢
        exact same _ node failed

/-- What is done with the file that a text names, when there is one. -/
def withFile {α : Type} (text : String) (act : FilePath → ByteArray → α) (place : FilePath) :
    Option FileNode → Except IoFault α
  | none => .error .notFound
  | some .directory => .error .isDirectory
  | some (.file bytes) => if text.endsWith "/" then .error .notDirectory else .ok (act place bytes)

theorem withFile_eq_ok_iff {α : Type} {act : FilePath → ByteArray → α} {a : α} :
    t.atPlace text (withFile text act) = .ok a ↔
      t.Reaches text ∧ ∃ bytes, t.find? (resolve text) = some (.file bytes) ∧ act (resolve text) bytes = a := by
  rw [atPlace_eq_ok_iff]
  · refine and_congr_right fun open_ => ?_
    rcases t.find? (resolve text) with _ | _ | old <;> simp [withFile, open_.closed]
  · rintro ends - (_ | _ | old) <;> simp [withFile, ends]

theorem read_eq_ok_iff : t.read text = .ok bytes ↔ t.Reaches text ∧ t.find? (resolve text) = some (.file bytes) := by
  rw [show t.read text = t.atPlace text (withFile text fun _ bytes => bytes) from rfl, withFile_eq_ok_iff]
  simp only [exists_eq_right]

theorem remove_eq_ok_iff :
    t.remove text = .ok u ↔
      t.Reaches text ∧ (∃ bytes, t.find? (resolve text) = some (.file bytes)) ∧ u = t.erase (resolve text) := by
  rw [show t.remove text = t.atPlace text (withFile text fun place _ => t.erase place) from rfl, withFile_eq_ok_iff]
  simp only [exists_and_right, eq_comm]

/-- What is done where a file is put. -/
def putFile (t : FileTree) (text : String) (bytes : ByteArray) (place : FilePath) :
    Option FileNode → Except IoFault FileTree
  | some .directory => .error .isDirectory
  | _ => if text.endsWith "/" then .error .isDirectory else .ok (t.insert place (.file bytes))

theorem write_atPlace (t : FileTree) (text : String) (bytes : ByteArray) :
    t.write text bytes = t.atPlace text (t.putFile text bytes) :=
  rfl

theorem write_eq_ok_iff :
    t.write text bytes = .ok u ↔
      t.Reaches text ∧ t.find? (resolve text) ≠ some .directory ∧ u = t.insert (resolve text) (.file bytes) := by
  rw [write_atPlace, atPlace_eq_ok_iff]
  · refine and_congr_right fun open_ => ?_
    rcases t.find? (resolve text) with _ | _ | old <;> simp [putFile, open_.closed, eq_comm]
  · rintro ends - (_ | _ | old) <;> simp [putFile, ends]

/-- Whether a file can be written does not depend on what is in it. -/
theorem write_eq_error {fault : IoFault} (failed : t.write text bytes = .error fault) (other : ByteArray) :
    t.write text other = .error fault := by
  rw [write_atPlace] at failed ⊢
  refine atPlace_eq_error ?_ failed
  rintro place (_ | _ | old) <;> cases ends : text.endsWith "/" <;> simp [putFile, ends]

theorem directoriesIn_insert (file : t.find? path ≠ some .directory) (inside : path ≠ []) (node : FileNode) :
    t.DirectoriesIn (t.insert path node) := by
  intro place there
  have other : place ≠ path := by
    rintro rfl
    exact file there
  rw [find?_insert t inside, if_neg other, there]

/-- What was written is read. -/
theorem read_of_write (wrote : t.write text bytes = .ok u) : u.read text = .ok bytes := by
  obtain ⟨open_, file, rfl⟩ := write_eq_ok_iff.mp wrote
  refine read_eq_ok_iff.mpr ⟨open_.in (directoriesIn_insert file open_.resolve_ne_nil _), ?_⟩
  rw [find?_insert t open_.resolve_ne_nil, if_pos rfl]

/-- A file that was written can be written again, and then it is as if it had been written only once. -/
theorem write_again (wrote : t.write text bytes = .ok u) (again : ByteArray) :
    u.write text again = t.write text again := by
  obtain ⟨open_, file, rfl⟩ := write_eq_ok_iff.mp wrote
  have once : t.write text again = .ok (t.insert (resolve text) (.file again)) :=
    write_eq_ok_iff.mpr ⟨open_, file, rfl⟩
  rw [once]
  refine write_eq_ok_iff.mpr ⟨open_.in (directoriesIn_insert file open_.resolve_ne_nil _), ?_, ?_⟩
  · rw [find?_insert t open_.resolve_ne_nil, if_pos rfl]
    simp
  · rw [insert_insert]

/-- The same is read from trees that look the same. -/
theorem read_of_same (same : ∀ place, u.find? place = t.find? place) (got : t.read text = .ok bytes) :
    u.read text = .ok bytes := by
  obtain ⟨open_, there⟩ := read_eq_ok_iff.mp got
  exact read_eq_ok_iff.mpr ⟨open_.in fun place directory => (same place).trans directory, (same _).trans there⟩

/-- To write a file touches no other place. -/
theorem find?_of_write (wrote : t.write text bytes = .ok u) (other : place ≠ resolve text) :
    u.find? place = t.find? place := by
  obtain ⟨open_, -, rfl⟩ := write_eq_ok_iff.mp wrote
  rw [find?_insert t open_.resolve_ne_nil, if_neg other]

/-- To write a file changes nothing exactly if it is there already. -/
theorem write_keeps_iff (wrote : t.write text bytes = .ok u) :
    (∀ place, u.find? place = t.find? place) ↔ t.read text = .ok bytes := by
  have written := read_of_write wrote
  refine ⟨fun same => read_of_same (fun place => (same place).symm) written, fun before place => ?_⟩
  by_cases here : place = resolve text
  · rw [here, (read_eq_ok_iff.mp written).2, (read_eq_ok_iff.mp before).2]
  · exact find?_of_write wrote here

end SheetExport.FileTree
