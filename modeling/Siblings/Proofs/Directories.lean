import Siblings.Proofs.Script

/-!
# The making of directories

Where a directory is made there was nothing before, so what could be read can still be read.

* `Disk.AddsDirectories`: **a disk with more directories,** and nothing else changed.
* `Disk.AddsDirectoriesAt`: the same, where all of them are on some paths.
* `Disk.Holds`: a file at the place of a path, and `AddsDirectories.holds`: it stays there.
* `Script.Makes`: what scripts that make directories do, also when they fail.
* `makeDirectories_again`: **directories are made once,** and made again without a change.
-/

namespace Siblings

namespace Disk

variable {disk disk' disk'' : Disk} {path : Text} {paths : List Text} {place : Place}
  {bytes : List UInt8}

/-- **A disk with more directories:** at every place is what was there, or a directory where
nothing was. -/
def AddsDirectories (disk disk' : Disk) : Prop :=
  ∀ place, disk'.node? place = disk.node? place ∨
    disk.node? place = none ∧ disk'.node? place = some .directory

/-- What is there stays there. -/
theorem AddsDirectories.node?_eq_some (h : AddsDirectories disk disk') {node : Node}
    (hnode : disk.node? place = some node) : disk'.node? place = some node := by
  rcases h place with hsame | ⟨hnone, -⟩
  · rw [hsame, hnode]
  · rw [hnone] at hnode
    simp at hnode

theorem AddsDirectories.locate (h : AddsDirectories disk disk')
    (hplace : disk.locate path = .ok place) : disk'.locate path = .ok place :=
  locate_of_directories (fun _ => h.node?_eq_some) hplace

/-- A file that is there keeps its place. -/
theorem AddsDirectories.filePlace? (h : AddsDirectories disk disk')
    (hplace : disk.filePlace? path = some place) (hnode : disk.node? place = some (.file bytes)) :
    disk'.filePlace? path = some place := by
  obtain ⟨hlocate, hslash, -⟩ := filePlace?_eq_some_iff.1 hplace
  refine filePlace?_eq_some_iff.2 ⟨h.locate hlocate, hslash, ?_⟩
  rw [h.node?_eq_some hnode]
  simp

/-- **There is a file at the place of a path.** -/
def Holds (disk : Disk) (path : Text) (place : Place) (bytes : List UInt8) : Prop :=
  disk.filePlace? path = some place ∧ disk.node? place = some (.file bytes)

/-- A file that is there stays there. -/
theorem AddsDirectories.holds (h : AddsDirectories disk disk')
    (hold : disk.Holds path place bytes) : disk'.Holds path place bytes :=
  ⟨h.filePlace? hold.1 hold.2, h.node?_eq_some hold.2⟩

theorem isDirectory_eq_true_iff :
    disk.isDirectory path = true ↔
      ∃ place, disk.locate path = .ok place ∧ disk.node? place = some .directory := by
  unfold isDirectory
  cases disk.locate path <;> simp

theorem AddsDirectories.isDirectory (h : AddsDirectories disk disk')
    (hdir : disk.isDirectory path = true) : disk'.isDirectory path = true := by
  obtain ⟨place, hplace, hnode⟩ := isDirectory_eq_true_iff.1 hdir
  exact isDirectory_eq_true_iff.2 ⟨place, h.locate hplace, h.node?_eq_some hnode⟩

theorem SameDirectories.isDirectory (h : SameDirectories disk disk')
    (hdir : disk.isDirectory path = true) : disk'.isDirectory path = true := by
  obtain ⟨place, hplace, hnode⟩ := isDirectory_eq_true_iff.1 hdir
  exact isDirectory_eq_true_iff.2 ⟨place, h.locate hplace, (h place).1 hnode⟩

/-- **A directory is made** at a place where nothing is. -/
theorem makeDirectory_eq_ok_iff :
    disk.makeDirectory path = .ok disk' ↔ ∃ place, disk.locate path = .ok place ∧
      disk.node? place = none ∧ disk.set place .directory = disk' := by
  unfold makeDirectory
  cases disk.locate path with
  | error fault => simp
  | ok found => cases hnode : disk.node? found <;> simp [hnode]

/-- A directory that is there is not made again. -/
theorem makeDirectory_of_isDirectory (h : disk.isDirectory path = true) :
    disk.makeDirectory path = .error .occupied := by
  obtain ⟨place, hplace, hnode⟩ := isDirectory_eq_true_iff.1 h
  simp [makeDirectory, hplace, hnode]

theorem node?_set_directory (hnone : disk.node? place = none) (other : Place) :
    (disk.set place .directory).node? other =
      if other = place then some .directory else disk.node? other :=
  node?_set disk place other .directory (by rintro rfl; simp [node?_nil] at hnone)

theorem addsDirectories_set (hnone : disk.node? place = none) :
    AddsDirectories disk (disk.set place .directory) := by
  intro other
  rw [node?_set_directory hnone]
  by_cases heq : other = place
  · exact .inr ⟨heq ▸ hnone, if_pos heq⟩
  · exact .inl (if_neg heq)

/-- **A disk with more directories on some paths:** where something is that was not there, it is a
directory that one of the paths leads to. -/
def AddsDirectoriesAt (paths : List Text) (disk disk' : Disk) : Prop :=
  ∀ place, disk'.node? place = disk.node? place ∨
    disk.node? place = none ∧ disk'.node? place = some .directory ∧
      ∃ path ∈ paths, disk'.locate path = .ok place

theorem AddsDirectoriesAt.refl (paths : List Text) (disk : Disk) :
    AddsDirectoriesAt paths disk disk := fun _ => .inl rfl

theorem AddsDirectoriesAt.addsDirectories (h : AddsDirectoriesAt paths disk disk') :
    AddsDirectories disk disk' := by
  intro place
  rcases h place with hsame | ⟨hnone, hmade, -⟩
  · exact .inl hsame
  · exact .inr ⟨hnone, hmade⟩

theorem AddsDirectoriesAt.mono {more : List Text} (h : AddsDirectoriesAt paths disk disk')
    (hmore : ∀ path ∈ paths, path ∈ more) : AddsDirectoriesAt more disk disk' := by
  intro place
  rcases h place with hsame | ⟨hnone, hmade, path, hpath, hplace⟩
  · exact .inl hsame
  · exact .inr ⟨hnone, hmade, path, hmore path hpath, hplace⟩

theorem AddsDirectoriesAt.trans (h : AddsDirectoriesAt paths disk disk')
    (h' : AddsDirectoriesAt paths disk' disk'') : AddsDirectoriesAt paths disk disk'' := by
  intro place
  rcases h' place with hsame | ⟨hnone, hmade, hpath⟩
  · rw [hsame]
    rcases h place with hbefore | ⟨hnone, hmade, path, hpath, hplace⟩
    · exact .inl hbefore
    · exact .inr ⟨hnone, hmade, path, hpath, h'.addsDirectories.locate hplace⟩
  · rcases h place with hbefore | ⟨-, hfirst, -⟩
    · exact .inr ⟨hbefore ▸ hnone, hmade, hpath⟩
    · rw [hfirst] at hnone
      simp at hnone

theorem addsDirectoriesAt_makeDirectory (h : disk.makeDirectory path = .ok disk') :
    AddsDirectoriesAt [path] disk disk' ∧ disk'.isDirectory path = true := by
  obtain ⟨place, hplace, hnone, rfl⟩ := makeDirectory_eq_ok_iff.1 h
  have hmade := node?_set_directory hnone place
  rw [if_pos rfl] at hmade
  have hlocate := (addsDirectories_set hnone).locate hplace
  refine ⟨fun other => ?_, isDirectory_eq_true_iff.2 ⟨place, hlocate, hmade⟩⟩
  by_cases heq : other = place
  · subst heq
    exact .inr ⟨hnone, hmade, path, by simp, hlocate⟩
  · rw [node?_set_directory hnone, if_neg heq]
    exact .inl rfl

end Disk

open Disk (AddsDirectoriesAt)

namespace Script

variable {desk : Desk} {path : Text} {paths tried : List Text} {next : Script (Except Fault Unit)}

/-- **A script that makes directories:** it only adds some, on the paths that it tries, and if it
succeeds the ones that it is for are there. -/
structure Makes (tried paths : List Text) (script : Script (Except Fault Unit)) : Prop where
  adds : ∀ desk, AddsDirectoriesAt tried desk.disk (script.perform desk).2.disk
  there : ∀ desk, (script.perform desk).1 = .ok () →
    ∀ path ∈ paths, (script.perform desk).2.disk.isDirectory path = true
  /-- A directory is no file that is written. -/
  writes_eq_nil : ∀ desk, script.writes desk = []

theorem Makes.mono {more fewer : List Text} {script : Script (Except Fault Unit)}
    (h : Makes tried paths script) (hmore : ∀ path ∈ tried, path ∈ more)
    (hfewer : ∀ path ∈ fewer, path ∈ paths) : Makes more fewer script where
  adds := fun desk => (h.adds desk).mono hmore
  there := fun desk hok path hpath => h.there desk hok path (hfewer path hpath)
  writes_eq_nil := h.writes_eq_nil

/-- A script may try more than it does. -/
theorem Makes.trying {more : List Text} {script : Script (Except Fault Unit)}
    (h : Makes tried paths script) (hmore : ∀ path ∈ tried, path ∈ more) :
    Makes more paths script := h.mono hmore fun _ => id

/-- A script goes on if a directory is there. -/
theorem Makes.look (h : Makes tried paths next) (fault : Fault) :
    Makes tried (path :: paths) (isDirectory path fun
      | true => next
      | false => done (.error fault)) := by
  constructor <;> intro desk
  case adds =>
    rw [perform]
    cases desk.disk.isDirectory path with
    | false => exact .refl _ _
    | true => exact h.adds desk
  case there =>
    rw [perform]
    cases hdir : desk.disk.isDirectory path with
    | false => simp [perform]
    | true =>
      exact fun hok => List.forall_mem_cons.2
        ⟨(h.adds desk).addsDirectories.isDirectory hdir, h.there desk hok⟩
  case writes_eq_nil =>
    rw [writes]
    cases desk.disk.isDirectory path with
    | false => rfl
    | true => exact h.writes_eq_nil desk

/-- A directory is made, or something else is tried. -/
theorem Makes.step {next : Except Fault Unit → Script (Except Fault Unit)} (hpath : path ∈ tried)
    (h : Makes tried paths (next (.ok ())))
    (hother : ∀ fault, Makes tried (path :: paths) (next (.error fault))) :
    Makes tried (path :: paths) (makeDirectory path next) := by
  constructor <;> intro desk
  case adds =>
    rw [perform]
    cases hmade : desk.disk.makeDirectory path with
    | error fault => exact (hother fault).adds desk
    | ok disk =>
      have hfirst := (Disk.addsDirectoriesAt_makeDirectory hmade).1
      exact (hfirst.mono (by simpa using hpath)).trans (h.adds { desk with disk })
  case there =>
    rw [perform]
    cases hmade : desk.disk.makeDirectory path with
    | error fault => exact (hother fault).there desk
    | ok disk =>
      have hdir := (Disk.addsDirectoriesAt_makeDirectory hmade).2
      exact fun hok => List.forall_mem_cons.2
        ⟨(h.adds { desk with disk }).addsDirectories.isDirectory hdir,
          h.there { desk with disk } hok⟩
  case writes_eq_nil =>
    rw [writes]
    cases desk.disk.makeDirectory path with
    | error fault => exact (hother fault).writes_eq_nil desk
    | ok disk => exact h.writes_eq_nil { desk with disk }

theorem makes_makeEach (paths : List Text) : Makes paths paths (makeEach paths) := by
  induction paths with
  | nil => exact ⟨fun _ => .refl _ _, fun _ _ => by simp, fun _ => rfl⟩
  | cons path paths ih =>
    have hrest : Makes (path :: paths) paths (makeEach paths) :=
      ih.trying fun _ => List.mem_cons_of_mem path
    exact hrest.step List.mem_cons_self fun fault => hrest.look fault

/-- The search for the first directory that can be made, or is there, ends with the making of the
longer ones. -/
theorem makes_makeFrom (missing above : List Text) :
    Makes (missing ++ above) (above.take 1 ++ missing) (makeFrom missing above) := by
  induction above generalizing missing with
  | nil => exact (makes_makeEach missing).trying fun _ => List.mem_append_left []
  | cons path above ih =>
    have heach : Makes (missing ++ path :: above) missing (makeEach missing) :=
      (makes_makeEach missing).trying fun _ => List.mem_append_left _
    refine heach.step (by simp) fun fault => ?_
    -- a path that leads nowhere is tried again once the directory above it is there
    cases fault with
    | missing =>
      exact (ih (path :: missing)).mono (fun other hother => by simpa [or_left_comm] using hother)
        fun other hother => List.mem_append_right _ hother
    | occupied => exact heach.look _
    | notDirectory => exact heach.look _
    | isDirectory => exact heach.look _
    | other code wording => exact heach.look _

/-- **A directory that is made is there,** and only it and those above it are made. -/
theorem makes_makeDirectories (path : Text) :
    Makes (Path.ancestors path) ((Path.ancestors path).take 1) (makeDirectories path) := by
  have h := makes_makeFrom [] (Path.ancestors path)
  rwa [List.append_nil] at h

theorem ancestors_of_ne_nil (hne : path ≠ []) :
    ∃ above, Path.ancestors path = path :: above := by
  simp [Path.ancestors, hne]

/-- A directory that is made is there; no path at all stands for the one that is there already. -/
theorem isDirectory_of_makeDirectories (h : ((makeDirectories path).perform desk).1 = .ok ()) :
    path = [] ∨ ((makeDirectories path).perform desk).2.disk.isDirectory path = true := by
  by_cases hne : path = []
  · exact .inl hne
  · obtain ⟨above, habove⟩ := ancestors_of_ne_nil hne
    exact .inr ((makes_makeDirectories path).there desk h path (by simp [habove]))

/-- **A directory that is there is made without a change.** -/
theorem makeDirectories_of_isDirectory (h : path ≠ [] → desk.disk.isDirectory path = true) :
    (makeDirectories path).perform desk = (.ok (), desk) := by
  by_cases hne : path = []
  · subst hne
    rfl
  · obtain ⟨above, habove⟩ := ancestors_of_ne_nil hne
    rw [makeDirectories, habove, makeFrom, perform, Disk.makeDirectory_of_isDirectory (h hne)]
    simp [Desk.change, perform, h hne, makeEach]

/-- **Directories are made once:** where they are made they are made again without a change, also
after files are written. -/
theorem makeDirectories_again {after : Desk} (h : ((makeDirectories path).perform desk).1 = .ok ())
    (hsame : ((makeDirectories path).perform desk).2.disk.SameDirectories after.disk) :
    (makeDirectories path).perform after = (.ok (), after) := by
  exact makeDirectories_of_isDirectory fun hne =>
    hsame.isDirectory ((isDirectory_of_makeDirectories h).resolve_left hne)

end Script

end Siblings
