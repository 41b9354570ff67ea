import Siblings.Disk.Basic

/-!
# Files and their places

Writing a file changes no directory, so every path keeps leading to its place.

* `SameDirectories`: disks where every path leads to the same place.
* `filePlace?`: **the place of the file that is written at a path.**
* `write_eq_ok_iff`, `append_eq_ok_iff`, `read_eq_ok_iff`: the operations by places.
* `locate_join`: where a name below a directory leads to.
-/

namespace Siblings

/-! ## The names in a path -/

namespace Path

theorem splitOn_ne_nil (separator : Char) (text : Text) : Text.splitOn separator text ≠ [] := by
  cases text with
  | nil => simp [Text.splitOn]
  | cons c rest =>
    rw [Text.splitOn]
    split
    · simp
    · split <;> simp

theorem splitOn_append (separator : Char) (front back : Text) :
    Text.splitOn separator (front ++ separator :: back) =
      Text.splitOn separator front ++ Text.splitOn separator back := by
  induction front with
  | nil => simp [Text.splitOn]
  | cons c front ih =>
    rw [List.cons_append, Text.splitOn, Text.splitOn, ih]
    split
    · rfl
    · cases hparts : Text.splitOn separator front with
      | nil => exact absurd hparts (splitOn_ne_nil separator front)
      | cons piece more => rfl

theorem splitOn_of_not_mem {separator : Char} {text : Text} (h : separator ∉ text) :
    Text.splitOn separator text = [text] := by
  induction text with
  | nil => rfl
  | cons c rest ih =>
    rw [List.mem_cons, not_or] at h
    rw [Text.splitOn, if_neg (Ne.symm h.1), ih h.2]

theorem parts_append_slash (front back : Text) :
    parts (front ++ '/' :: back) = parts front ++ parts back := by
  rw [parts, splitOn_append, List.filter_append]
  rfl

theorem parts_of_not_mem {name : Text} (h : '/' ∉ name) (hne : name ≠ []) :
    parts name = [name] := by
  simp [parts, splitOn_of_not_mem h, hne]

theorem isAbsolute_of_not_mem {name : Text} (h : '/' ∉ name) : isAbsolute name = false := by
  cases name with
  | nil => rfl
  | cons c rest =>
    rw [List.mem_cons, not_or] at h
    simpa [isAbsolute] using Ne.symm h.1

/-- **A name below a directory** is the last name of its path, behind those of the directory. -/
theorem parts_join {name : Text} (h : '/' ∉ name) (hne : name ≠ []) (directory : Text) :
    parts (join directory name) = parts directory ++ [name] := by
  have hname := parts_of_not_mem h hne
  unfold join
  rw [isAbsolute_of_not_mem h, Bool.false_or]
  split
  · rename_i hnil
    rw [List.isEmpty_iff.1 hnil, hname]
    rfl
  · split
    · rename_i hslash
      -- the directory brings its own slash, behind which no name follows
      obtain ⟨front, rfl⟩ : ∃ front, directory = front ++ ['/'] :=
        List.getLast?_eq_some_iff.1 (by simpa [endsInSlash] using hslash)
      rw [List.append_assoc, List.singleton_append, parts_append_slash, parts_append_slash, hname]
      simp [parts, Text.splitOn]
    · rw [parts_append_slash, hname]

theorem isAbsolute_join {name : Text} (h : '/' ∉ name) (directory : Text) :
    isAbsolute (join directory name) = isAbsolute directory := by
  unfold join
  rw [isAbsolute_of_not_mem h, Bool.false_or]
  cases directory with
  | nil => exact isAbsolute_of_not_mem h
  | cons c rest =>
    rw [if_neg (by simp)]
    split <;> simp [isAbsolute]

end Path

namespace Disk

variable {disk disk' : Disk} {path : Text} {place : Place} {bytes : List UInt8}

/-! ## The places of files -/

theorem node?_nil (disk : Disk) : disk.node? [] = some .directory := rfl

theorem ne_nil_of_node? (h : disk.node? place ≠ some .directory) : place ≠ [] := by
  rintro rfl
  exact h (node?_nil disk)

/-- **Disks with the same directories.** -/
def SameDirectories (disk disk' : Disk) : Prop :=
  ∀ place, disk.node? place = some .directory ↔ disk'.node? place = some .directory

theorem SameDirectories.refl (disk : Disk) : SameDirectories disk disk := fun _ => Iff.rfl

theorem SameDirectories.symm (h : SameDirectories disk disk') : SameDirectories disk' disk :=
  fun place => (h place).symm

theorem SameDirectories.trans {disk'' : Disk} (h : SameDirectories disk disk')
    (h' : SameDirectories disk' disk'') : SameDirectories disk disk'' := fun place =>
  (h place).trans (h' place)

/-- A file in the place of no directory leaves the directories as they are. -/
theorem sameDirectories_set (h : disk.node? place ≠ some .directory) (bytes : List UInt8) :
    SameDirectories disk (disk.set place (.file bytes)) := by
  intro other
  rw [node?_set disk place other _ (ne_nil_of_node? h)]
  split
  · rename_i heq
    simp [heq, h]
  · rfl

/-- A path goes on where it meets a directory, so it leads on where directories stay. -/
theorem enter_of_directories
    (h : ∀ place, disk.node? place = some .directory → disk'.node? place = some .directory)
    {names : List Text} {start : Place} (hplace : disk.enter names start = .ok place) :
    disk'.enter names start = .ok place := by
  induction names generalizing start with
  | nil => exact hplace
  | cons name names ih =>
    rw [Disk.enter] at hplace ⊢
    split at hplace
    · simp at hplace
    · simp at hplace
    · rename_i hdir
      rw [h _ hdir]
      exact ih hplace

/-- **A path leads to the same place** where directories stay. -/
theorem locate_of_directories
    (h : ∀ place, disk.node? place = some .directory → disk'.node? place = some .directory)
    (hplace : disk.locate path = .ok place) : disk'.locate path = .ok place := by
  unfold Disk.locate at hplace ⊢
  dsimp only at hplace ⊢
  split at hplace
  · simp at hplace
  · rename_i hne
    rw [if_neg hne]
    split at hplace
    · exact hplace
    · rename_i last hlast
      cases henter : disk.enter (Path.parts path).dropLast
        (if Path.isAbsolute path then [] else home) with
      | error fault => rw [henter] at hplace; simp [Except.map] at hplace
      | ok above => rw [enter_of_directories h henter]; rwa [henter] at hplace

theorem SameDirectories.locate (h : SameDirectories disk disk')
    (hplace : disk.locate path = .ok place) : disk'.locate path = .ok place :=
  locate_of_directories (fun place => (h place).1) hplace

/-- The bytes of the file at a place; none if there is no file. -/
def bytesAt (disk : Disk) (place : Place) : List UInt8 :=
  match disk.node? place with
  | some (.file bytes) => bytes
  | _ => []

theorem target_eq_ok_iff {old : List UInt8} :
    disk.target path = .ok (place, old) ↔
      (disk.locate path = .ok place ∧ Path.endsInSlash path = false ∧
        disk.node? place ≠ some .directory) ∧ disk.bytesAt place = old := by
  unfold target bytesAt
  cases disk.locate path with
  | error fault => simp
  | ok found =>
    dsimp only
    by_cases hfound : found = place
    · subst hfound
      cases Path.endsInSlash path <;> rcases disk.node? found with _ | (bytes | _) <;> simp
    · cases Path.endsInSlash path <;> rcases disk.node? found with _ | (bytes | _) <;>
        simp [hfound]

/-- **The place of the file that is written at a path,** if a file can be written there. -/
def filePlace? (disk : Disk) (path : Text) : Option Place :=
  match disk.target path with
  | .ok (place, _) => some place
  | .error _ => none

theorem filePlace?_eq_some_iff :
    disk.filePlace? path = some place ↔ disk.locate path = .ok place ∧
      Path.endsInSlash path = false ∧ disk.node? place ≠ some .directory := by
  unfold filePlace?
  constructor
  · intro h
    split at h
    · rename_i found old htarget
      obtain rfl := Option.some.inj h
      exact (target_eq_ok_iff.1 htarget).1
    · simp at h
  · intro h
    rw [target_eq_ok_iff.2 ⟨h, rfl⟩]

/-- Files have the same places on disks with the same directories. -/
theorem SameDirectories.filePlace? (h : SameDirectories disk disk') (path : Text) :
    disk'.filePlace? path = disk.filePlace? path := by
  refine Option.ext fun place => ?_
  rw [filePlace?_eq_some_iff, filePlace?_eq_some_iff, Ne, Ne, h place]
  exact and_congr_left fun _ => ⟨h.symm.locate, h.locate⟩

/-! ## Reading and writing -/

/-- **A file is written** at its place. -/
theorem write_eq_ok_iff :
    disk.write path bytes = .ok disk' ↔
      ∃ place, disk.filePlace? path = some place ∧ disk.set place (.file bytes) = disk' := by
  unfold write Disk.filePlace?
  cases disk.target path <;> simp [Except.map]

/-- **A file grows** at its place. -/
theorem append_eq_ok_iff :
    disk.append path bytes = .ok disk' ↔ ∃ place, disk.filePlace? path = some place ∧
      disk.set place (.file (disk.bytesAt place ++ bytes)) = disk' := by
  unfold append Disk.filePlace?
  cases htarget : disk.target path with
  | error fault => simp [Except.map]
  | ok found =>
    obtain ⟨place, old⟩ := found
    obtain ⟨-, rfl⟩ := target_eq_ok_iff.1 htarget
    simp [Except.map]

/-- **What is read is the file at the place** that a path leads to. -/
theorem read_eq_ok_iff :
    disk.read path = .ok bytes ↔
      ∃ place, disk.filePlace? path = some place ∧ disk.node? place = some (.file bytes) := by
  simp only [filePlace?_eq_some_iff]
  unfold read
  cases disk.locate path with
  | error fault => simp
  | ok found =>
    simp only [Except.ok.injEq, and_assoc, exists_eq_left']
    rcases disk.node? found with _ | (old | _) <;> cases Path.endsInSlash path <;> simp

/-- **A name below a directory** leads to the place below the directory's. -/
theorem locate_join {name : Text} (h : '/' ∉ name) (hne : name ≠ []) (directory : Text) :
    disk.locate (Path.join directory name) =
      (disk.enter (Path.parts directory) (if Path.isAbsolute directory then [] else home)).map
        (step · name) := by
  have hparts := Path.parts_join h hne directory
  have hpath : Path.join directory name ≠ [] := by
    intro hnil
    rw [hnil] at hparts
    simp [Path.parts, Text.splitOn] at hparts
  unfold locate
  simp [hpath, hparts, Path.isAbsolute_join h]

end Disk

end Siblings
