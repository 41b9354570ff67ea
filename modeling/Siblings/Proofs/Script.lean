import Siblings.Log
import Siblings.Proofs.Disk

/-!
# What scripts leave on a disk

* `perform_bind`: one script after the other.
* `Script.writes`: **the files that a script writes.**
* `Logger.place?`: the place of the file that log lines go to.
* `Logger.disk_note`: **the disk after an event is noted.**
-/

namespace Siblings

namespace Script

variable {α β : Type}

@[simp]
theorem perform_pure (result : α) (desk : Desk) :
    (pure result : Script α).perform desk = (result, desk) := rfl

@[simp]
theorem perform_bind (script : Script α) (f : α → Script β) (desk : Desk) :
    (script >>= f).perform desk = (f (script.perform desk).1).perform (script.perform desk).2 :=
  perform_andThen script f desk

/-- **The files that a script writes on a desk,** one after the other: the path and the bytes of
each that the disk takes. -/
def writes : Script α → Desk → List (Text × List UInt8)
  | done _, _ => []
  | read path next, desk => (next (desk.disk.read path)).writes desk
  | isPresent path next, desk => (next (desk.disk.isPresent path)).writes desk
  | isDirectory path next, desk => (next (desk.disk.isDirectory path)).writes desk
  | makeDirectory path next, desk =>
    let (answer, desk) := desk.change (desk.disk.makeDirectory path)
    (next answer).writes desk
  | write path bytes next, desk =>
    match desk.change (desk.disk.write path bytes) with
    | (.ok (), desk) => (path, bytes) :: (next (.ok ())).writes desk
    | (.error fault, desk) => (next (.error fault)).writes desk
  | append path bytes next, desk =>
    let (answer, desk) := desk.change (desk.disk.append path bytes)
    (next answer).writes desk
  | clock next, desk => (next 0).writes desk
  | say stream text next, desk => next.writes (desk.shown stream text)

@[simp]
theorem writes_pure (result : α) (desk : Desk) : (pure result : Script α).writes desk = [] := rfl

@[simp]
theorem writes_bind (script : Script α) (f : α → Script β) (desk : Desk) :
    (script >>= f).writes desk =
      script.writes desk ++ (f (script.perform desk).1).writes (script.perform desk).2 := by
  change (script.andThen f).writes desk = _
  induction script generalizing desk with
  | done result => rfl
  | read path next ih => exact ih _ _
  | isPresent path next ih => exact ih _ _
  | isDirectory path next ih => exact ih _ _
  | makeDirectory path next ih => exact ih _ _
  | write path bytes next ih =>
    rw [andThen, writes, writes, perform]
    cases desk.disk.write path bytes with
    | error fault => exact ih _ _
    | ok disk => exact congrArg _ (ih _ _)
  | append path bytes next ih => exact ih _ _
  | clock next ih => exact ih _ _
  | say stream text next ih => exact ih _

end Script

namespace Disk

variable {disk disk' disk'' : Disk} {place : Place} {quiet : Prop}

/-- A disk with more bytes in the file at a place, if there is a place. -/
def grown (disk : Disk) (place? : Option Place) (bytes : List UInt8) : Disk :=
  match place? with
  | some place => disk.set place (.file (disk.bytesAt place ++ bytes))
  | none => disk

theorem node?_grown {path? : Option Text} (bytes : List UInt8) (other : Place) :
    (disk.grown (path?.bind disk.filePlace?) bytes).node? other =
      if path?.bind disk.filePlace? = some other then some (.file (disk.bytesAt other ++ bytes))
      else disk.node? other := by
  cases hplace : path?.bind disk.filePlace? with
  | none => rfl
  | some place =>
    obtain ⟨path, -, hpath⟩ := Option.bind_eq_some_iff.1 hplace
    have hnode := (filePlace?_eq_some_iff.1 hpath).2.2
    rw [grown, node?_set _ _ _ _ (ne_nil_of_node? hnode)]
    by_cases heq : other = place
    · simp [heq]
    · simp [heq, Ne.symm heq]

theorem sameDirectories_grown {path? : Option Text} (bytes : List UInt8) :
    SameDirectories disk (disk.grown (path?.bind disk.filePlace?) bytes) := by
  cases hplace : path?.bind disk.filePlace? with
  | none => exact SameDirectories.refl disk
  | some place =>
    obtain ⟨path, -, hpath⟩ := Option.bind_eq_some_iff.1 hplace
    exact sameDirectories_set (filePlace?_eq_some_iff.1 hpath).2.2 _

/-- **The file at a place has only grown,** and has not changed if the place is quiet. -/
def Grows (quiet : Prop) (place : Place) (disk disk' : Disk) : Prop :=
  ∀ old, disk.node? place = some (.file old) →
    ∃ more, disk'.node? place = some (.file (old ++ more)) ∧ (quiet → more = [])

theorem grows_of_eq (h : disk'.node? place = disk.node? place) : Grows quiet place disk disk' :=
  fun old hold => ⟨[], by rw [h, hold, List.append_nil], fun _ => rfl⟩

theorem Grows.trans (h : Grows quiet place disk disk') (h' : Grows quiet place disk' disk'') :
    Grows quiet place disk disk'' := by
  intro old hold
  obtain ⟨more, hmore, hquiet⟩ := h old hold
  obtain ⟨others, hothers, hquiet'⟩ := h' _ hmore
  refine ⟨more ++ others, by rw [hothers, List.append_assoc], fun hq => ?_⟩
  rw [hquiet hq, hquiet' hq, List.append_nil]

end Disk

theorem Event.line_ne_nil (layout : Layout) (styles : Bool) (event : Event) :
    event.line layout styles ≠ [] := by
  unfold Event.line
  cases layout <;> simp

namespace Logger

variable {logger : Logger} {level : Level}

/-- The place of the file that log lines go to, if they go to a file that can be written. -/
def place? (logger : Logger) (disk : Disk) : Option Disk.Place := logger.file.bind disk.filePlace?

/-- **No line of a level goes to a place.** -/
def Spares (logger : Logger) (level : Level) (disk : Disk) (place : Disk.Place) : Prop :=
  logger.shows level = true → logger.place? disk ≠ some place

@[simp]
theorem file_within (name : String) (detail : Attribute) :
    (logger.within name detail).file = logger.file := by
  unfold within
  split <;> rfl

@[simp]
theorem shows_within (name : String) (detail : Attribute) :
    (logger.within name detail).shows level = logger.shows level := by
  unfold within
  split <;> rfl

@[simp]
theorem place?_within (name : String) (detail : Attribute) (disk : Disk) :
    (logger.within name detail).place? disk = logger.place? disk := by
  rw [place?, file_within, ← place?]

/-- What is shown at a level is shown at every graver one. -/
theorem shows_of_rank_le {graver : Level} (h : graver.rank ≤ level.rank)
    (hshows : logger.shows level = true) : logger.shows graver = true := by
  unfold shows at hshows ⊢
  split at hshows
  · simp only [decide_eq_true_eq] at hshows ⊢
    omega
  · simp at hshows

theorem place?_congr {disk disk' : Disk} (h : disk.SameDirectories disk') :
    logger.place? disk' = logger.place? disk :=
  congrArg logger.file.bind (funext h.filePlace?)

/-- The line of an event. -/
def lineOf (logger : Logger) (level : Level) (message : String) (attributes : List Attribute) :
    Text :=
  Event.line logger.layout logger.styles ⟨level, logger.spans, message.toList, attributes⟩

/-- **The disk after an event is noted:** its line is at the end of the log file. -/
theorem disk_note (desk : Desk) (message : String) (attributes : List Attribute) :
    ((logger.note level message attributes).perform desk).2.disk =
      if logger.shows level then
        desk.disk.grown (logger.place? desk.disk)
          (Text.encode (logger.lineOf level message attributes))
      else desk.disk := by
  unfold note
  split
  · unfold put place? lineOf
    cases logger.file with
    | none => rfl
    | some path =>
      simp only [Script.perform, Option.bind_some]
      generalize Text.encode _ = bytes
      cases hplace : desk.disk.filePlace? path with
      | none =>
        -- a file that cannot be written stays as it is, and the line is lost
        cases happend : desk.disk.append path bytes with
        | ok disk =>
          obtain ⟨place, hsome, -⟩ := Disk.append_eq_ok_iff.1 happend
          rw [hplace] at hsome
          simp at hsome
        | error fault => rfl
      | some place =>
        rw [Disk.append_eq_ok_iff.2 ⟨place, hplace, rfl⟩]
        rfl
  · rfl

/-- An event is no file that is written. -/
@[simp]
theorem writes_note (desk : Desk) (message : String) (attributes : List Attribute) :
    (logger.note level message attributes).writes desk = [] := by
  unfold note
  split
  · unfold put
    cases logger.file <;> rfl
  · rfl

/-- An event is no result that is shown. -/
theorem out_note (desk : Desk) (message : String) (attributes : List Attribute) :
    ((logger.note level message attributes).perform desk).2.out = desk.out := by
  unfold note
  split
  · unfold put
    cases logger.file with
    | none => rfl
    | some path =>
      rw [Script.perform]
      cases desk.disk.append path _ <;> rfl
  · rfl

/-- An event leaves the directories as they are. -/
theorem sameDirectories_note (desk : Desk) (message : String) (attributes : List Attribute) :
    desk.disk.SameDirectories ((logger.note level message attributes).perform desk).2.disk := by
  rw [disk_note]
  split
  · exact Disk.sameDirectories_grown _
  · exact Disk.SameDirectories.refl _

/-- What is at a place after an event is noted. -/
theorem node?_note (desk : Desk) (message : String) (attributes : List Attribute)
    (place : Disk.Place) :
    ((logger.note level message attributes).perform desk).2.disk.node? place =
      if logger.shows level = true ∧ logger.place? desk.disk = some place then
        some (.file (desk.disk.bytesAt place ++
          Text.encode (logger.lineOf level message attributes)))
      else desk.disk.node? place := by
  rw [disk_note]
  cases logger.shows level with
  | true =>
    rw [if_pos rfl, place?, Disk.node?_grown]
    simp only [true_and]
  | false => simp

/-- Where no line of the level goes, nothing changes. -/
theorem node?_note_of_spares (desk : Desk) (message : String) (attributes : List Attribute)
    {place : Disk.Place} (h : logger.Spares level desk.disk place) :
    ((logger.note level message attributes).perform desk).2.disk.node? place =
      desk.disk.node? place := by
  rw [node?_note, if_neg fun hline => h hline.1 hline.2]

/-- A file in a place that no line of the level goes to stays as it is; any other file grows. -/
theorem grows_note (desk : Desk) (message : String) (attributes : List Attribute)
    (place : Disk.Place) :
    Disk.Grows (logger.Spares level desk.disk place) place desk.disk
      ((logger.note level message attributes).perform desk).2.disk := by
  intro old hold
  rw [node?_note]
  split
  · rename_i h
    refine ⟨Text.encode (logger.lineOf level message attributes), ?_, ?_⟩
    · rw [Disk.bytesAt, hold]
    · exact fun hspares => absurd h.2 (hspares h.1)
  · exact ⟨[], by rw [hold, List.append_nil], fun _ => rfl⟩

end Logger

end Siblings
