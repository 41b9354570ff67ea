import Siblings.Proofs.Writes

/-!
# The file of the master

A run keeps the file of its master unless one of the classes that it writes goes there. A class
goes there if it goes to the master's directory and has the name of the master's file. The class
that the master is named after is never written, since no run derives it from itself. The master
is never left with a part of a class, since a `Disk` has room for every write that it opens.

* `Disk.content?`: what is in the file of a path.
* `place_of_fileName?`: the file of a path stands in its directory, under its own name.
* `nodeAfter`, `Wrote.node?_eq`: **a place after classes are written.**
* `Wrote.holds`: **a file after classes are written:** the last that went there, or what it was.
* `placeOf_eq_master_iff`: when a class goes to the master's file.
* `master_after_run`: **the master after a run.**
-/

namespace Siblings

namespace Disk

variable {disk disk' : Disk} {path : Text} {place : Place} {bytes : List UInt8}

/-- What is in the file of a path, if there is one. -/
def content? (disk : Disk) (path : Text) : Option (List UInt8) := (disk.read path).toOption

theorem content?_eq_some_iff :
    disk.content? path = some bytes ↔ ∃ place, disk.Holds path place bytes := by
  have hread : disk.read path = .ok bytes ↔ ∃ place, disk.Holds path place bytes := read_eq_ok_iff
  rw [← hread, content?]
  cases disk.read path <;> simp [Except.toOption]

/-- A path that goes through names ends at a directory. -/
theorem node?_of_enter {names : List Text} {start : Place} (hne : names ≠ [])
    (h : disk.enter names start = .ok place) : disk.node? place = some .directory := by
  induction names generalizing start with
  | nil => exact absurd rfl hne
  | cons name names ih =>
    rw [enter] at h
    split at h
    · simp at h
    · simp at h
    · rename_i hdir
      by_cases hlast : names = []
      · subst hlast
        obtain rfl := Except.ok.inj h
        exact hdir
      · exact ih hlast h

end Disk

namespace Path

theorem fileName?_eq_some {path name : Text} (h : fileName? path = some name) :
    ((parts path).filter (· != dot)).getLast? = some name ∧ name ≠ dotDot := by
  unfold fileName? at h
  split at h
  · rename_i found hfound
    split at h
    · simp at h
    · rename_i hne
      obtain rfl := Option.some.inj h
      exact ⟨hfound, hne⟩
  · simp at h

end Path

namespace Disk

variable {disk disk' : Disk} {path : Text} {place : Place} {bytes : List UInt8}

/-- **The file of a path** stands below a directory, under the name that the path ends in. -/
theorem place_of_fileName? {name : Text} (hname : Path.fileName? path = some name)
    (hold : disk.Holds path place bytes) : ∃ above, above ++ [name] = place := by
  obtain ⟨hlast, hup⟩ := Path.fileName?_eq_some hname
  obtain ⟨hplace, hnode⟩ := hold
  have hlocate := (filePlace?_eq_some_iff.1 hplace).1
  unfold locate at hlocate
  dsimp only at hlocate
  split at hlocate
  · simp at hlocate
  split at hlocate
  · rename_i hparts
    rw [List.getLast?_eq_none_iff.1 hparts] at hlast
    simp at hlast
  · rename_i last hparts
    obtain ⟨front, hfront⟩ := List.getLast?_eq_some_iff.1 hparts
    obtain ⟨above, habove, hstep⟩ := map_eq_ok_iff.1 hlocate
    rw [hfront, List.dropLast_concat] at habove
    by_cases hdot : last = Path.dot
    · -- a single dot behind some names leads to a directory, which is no file
      subst hdot
      rw [step, if_pos rfl] at hstep
      subst hstep
      have hne : front ≠ [] := by
        rintro rfl
        rw [hfront] at hlast
        simp at hlast
      rw [node?_of_enter hne habove] at hnode
      simp at hnode
    · obtain rfl : last = name := by
        rw [hfront, List.filter_append] at hlast
        simpa [hdot] using hlast
      rw [step, if_neg hdot, if_neg hup] at hstep
      exact ⟨above, hstep⟩

end Disk

namespace Logger

variable {logger : Logger} {before after : Disk} {path : Text} {place : Disk.Place}
  {bytes : List UInt8}

theorem Noted.holds (h : logger.Noted before after) (hlog : logger.place? before ≠ some place)
    (hold : before.Holds path place bytes) : after.Holds path place bytes := by
  refine ⟨(h.same.filePlace? path).trans hold.1, ?_⟩
  rw [h.others place hlog, hold.2]

/-- Notes change no file but that of the log. -/
theorem Noted.content? (h : logger.Noted before after)
    (hlog : ∀ place, before.filePlace? path = some place → logger.place? before ≠ some place) :
    after.content? path = before.content? path := by
  refine Option.ext fun bytes => ?_
  simp only [Disk.content?_eq_some_iff, Disk.Holds, h.same.filePlace? path]
  refine exists_congr fun place => and_congr_right fun hplace => ?_
  rw [h.others place (hlog place hplace)]

end Logger

namespace Run

variable {logger : Logger} {config : RunConfig} {desk after : Desk} {outputDir path : Text}
  {files : List GeneratedFile} {before written : Disk} {place : Disk.Place} {old : List UInt8}
  {file : GeneratedFile} {product : Product} {ready : Desk}

/-- The classes that go to a place, if there is such a place. -/
def classesAt (disk : Disk) (outputDir : Text) (place? : Option Disk.Place)
    (files : List GeneratedFile) : List GeneratedFile :=
  files.filter fun file => placeOf disk outputDir file = place?

/-- What is in a file once some classes are written there: the last one, or what was there. -/
def lastText (classes : List GeneratedFile) (old : List UInt8) : List UInt8 :=
  match classes.getLast? with
  | some file => Text.encode file.text
  | none => old

theorem mem_classesAt_iff {disk : Disk} {place? : Option Disk.Place} :
    file ∈ classesAt disk outputDir place? files ↔
      file ∈ files ∧ placeOf disk outputDir file = place? := by
  simp [classesAt]

theorem classesAt_congr (h : before.SameDirectories written) (outputDir : Text)
    (place? : Option Disk.Place) (files : List GeneratedFile) :
    classesAt written outputDir place? files = classesAt before outputDir place? files := by
  simp only [classesAt, placeOf_congr h]

/-- **The last class that goes to a place,** if one goes there. -/
theorem classesAt_cases (disk : Disk) (outputDir : Text) (place? : Option Disk.Place)
    (files : List GeneratedFile) :
    (∃ front last back, files = front ++ last :: back ∧ placeOf disk outputDir last = place? ∧
        (∀ other ∈ back, placeOf disk outputDir other ≠ place?) ∧
          (classesAt disk outputDir place? files).getLast? = some last) ∨
      (∀ file ∈ files, placeOf disk outputDir file ≠ place?) ∧
        classesAt disk outputDir place? files = [] := by
  by_cases hsome : ∃ file ∈ files, placeOf disk outputDir file = place?
  · obtain ⟨front, last, back, rfl, hlast, hback⟩ :=
      exists_last (p := fun file => placeOf disk outputDir file = place?) hsome
    refine .inl ⟨front, last, back, rfl, hlast, hback, ?_⟩
    have hnone : classesAt disk outputDir place? back = [] := by
      simpa [classesAt, List.filter_eq_nil_iff] using hback
    unfold classesAt at hnone ⊢
    rw [List.filter_append, List.filter_cons_of_pos (by simpa using hlast), hnone]
    simp
  · refine .inr ⟨by simpa using hsome, ?_⟩
    simpa [classesAt, List.filter_eq_nil_iff] using hsome

/-- What is at a place once some classes are written: the last one that goes there, or what was
there. -/
def nodeAfter (disk : Disk) (outputDir : Text) (files : List GeneratedFile) (place : Disk.Place) :
    Option Disk.Node :=
  match (classesAt disk outputDir (some place) files).getLast? with
  | some file => some (.file (Text.encode file.text))
  | none => disk.node? place

/-- **A place after classes are written,** where no log line goes. -/
theorem Wrote.node?_eq (h : Wrote logger outputDir files before written)
    (hspares : logger.Spares .debug before place) :
    written.node? place = nodeAfter before outputDir files place := by
  unfold nodeAfter
  rcases classesAt_cases before outputDir (some place) files with
    ⟨front, last, back, heq, hlast, hback, hclasses⟩ | ⟨hnone, hclasses⟩
  · obtain ⟨more, hnode, hquiet⟩ := h.last front last back place heq hlast hback
    rw [hclasses, hnode, hquiet hspares, List.append_nil]
  · rw [hclasses]
    exact h.kept place hnone hspares

/-- **A file after classes are written:** the last that went there, or what it was. -/
theorem Wrote.holds (h : Wrote logger outputDir files before written)
    (hspares : logger.Spares .debug before place) (hold : before.Holds path place old) :
    written.Holds path place (lastText (classesAt before outputDir (some place) files) old) := by
  refine ⟨(h.same.filePlace? path).trans hold.1, ?_⟩
  rw [h.node?_eq hspares, nodeAfter, lastText]
  cases (classesAt before outputDir (some place) files).getLast? with
  | some file => rfl
  | none => exact hold.2

/-! ## The master in a run -/

theorem prepare_of_produce (h : (produce logger config).perform desk = (.ok product, ready)) :
    ((prepare logger config).perform desk).1 =
        .ok (product.catalog, product.fileName, product.text) ∧
      product.report.files =
        (product.request config).outcomes.filterMap Outcome.file? := by
  have hproduce := perform_produce_fst logger config desk
  rw [h] at hproduce
  rcases hprepare : ((prepare logger config).perform desk).1 with
    error | ⟨catalog, fileName, text⟩
  · rw [hprepare] at hproduce
    simp at hproduce
  · rw [hprepare] at hproduce
    simp only [productOf] at hproduce
    split at hproduce
    · simp at hproduce
    · rename_i report hreport
      obtain rfl := Except.ok.inj hproduce
      exact ⟨rfl, Report.files_of_ofOutcomes hreport⟩

/-- **The master once a product is delivered:** the last class that went there, or what it was. -/
theorem holds_of_produce
    (h : (produce (spanned logger config) config).perform desk = (.ok product, ready))
    {result : Except RunError RunReport}
    (hrun : (run logger config).perform desk = (result, after))
    (hold : desk.disk.Holds config.master place old)
    (hbefore : logger.place? desk.disk ≠ some place)
    (hafter : logger.place? after.disk ≠ some place) :
    ∃ written, written <+: product.report.files ∧
      (run logger config).writes desk = written.map (writeOf config.outputDir) ∧
      (∀ file ∈ written, placeOf after.disk config.outputDir file ≠ none) ∧
      after.disk.Holds config.master place
        (lastText (classesAt after.disk config.outputDir (some place) written) old) := by
  obtain ⟨front, made, written, hdelivers, hwrites, hlast⟩ := run_delivers h
  rw [hrun] at hlast
  have hready := (noted_produce h).holds (by simpa using hbefore) hold
  have hmade := hdelivers.adds.addsDirectories.holds hready
  -- no log line goes to the master, wherever the log goes once directories are made
  have hdirectories : made.SameDirectories after.disk := hdelivers.wrote.same.trans hlast.same
  have hlogMade : (spanned logger config).place? made ≠ some place := by
    rw [← Logger.place?_congr hdirectories]
    simpa using hafter
  have hlogWritten : (spanned logger config).place? written ≠ some place := by
    rw [← Logger.place?_congr hlast.same]
    simpa using hafter
  refine ⟨front, hdelivers.initial, hwrites, ?_, ?_⟩
  · intro file hfile
    obtain ⟨found, hfound⟩ := hdelivers.wrote.placed file hfile
    rw [placeOf_congr hdirectories, hfound]
    simp
  · rw [classesAt_congr hdirectories]
    exact hlast.holds hlogWritten (hdelivers.wrote.holds (fun _ => hlogMade) hmade)

/-- **A class goes to the master's file** exactly if it has the file's name and goes to its
directory. -/
theorem placeOf_eq_master_iff {disk : Disk} {name : Text}
    (hname : Path.fileName? config.master = some name)
    (hold : disk.Holds config.master place old) (hslash : '/' ∉ file.className)
    (hplaced : placeOf disk config.outputDir file ≠ none) :
    placeOf disk config.outputDir file = disk.filePlace? config.master ↔
      Path.fileName? config.master = some file.fileName ∧
        ∃ above, disk.enter (Path.parts config.outputDir)
            (if Path.isAbsolute config.outputDir then [] else Disk.home) = .ok above ∧
          disk.filePlace? config.master = some (above ++ [file.fileName]) := by
  obtain ⟨above, rfl⟩ := Disk.place_of_fileName? hname hold
  obtain ⟨found, hfound⟩ := Option.ne_none_iff_exists'.1 hplaced
  obtain ⟨directory, hdirectory, rfl⟩ := enter_of_placeOf hslash hfound
  rw [hfound, hdirectory, hold.1, hname]
  constructor
  · intro heq
    have hparts := List.append_inj' (Option.some.inj heq) rfl
    exact ⟨congrArg some (List.cons.inj hparts.2).1.symm, directory, rfl, heq.symm⟩
  · rintro ⟨-, other, hother, heq⟩
    rw [Except.ok.inj hother, heq]

/-- A class that is written comes from a target. -/
theorem outcome_of_mem_files {request : Request}
    (h : file ∈ request.outcomes.filterMap Outcome.file?) :
    ∃ entry ∈ request.table.targets, request.outcome entry = .ok file := by
  obtain ⟨outcome, houtcome, hfile⟩ := List.mem_filterMap.1 h
  obtain ⟨entry, hentry, rfl⟩ := List.mem_map.1 houtcome
  refine ⟨entry, hentry, ?_⟩
  unfold Outcome.file? at hfile
  split at hfile
  · rename_i found hfound
    exact hfound.trans (congrArg Except.ok (Option.some.inj hfile))
  · simp at hfile

/-- A class is not written to a file that is named after the master's own class. -/
theorem fileName_ne_of_outcome {request : Request} {entry : Entry}
    (h : request.outcome entry = .ok file) :
    file.fileName ≠ request.defaultClass ++ ".java".toList := by
  obtain ⟨hself, -, hclass⟩ := Request.outcome_eq_ok_iff.1 h
  intro hsame
  exact hself (hclass.symm.trans (List.append_cancel_right hsame))

/-- **The master after a run.** A run changes the file of its master by the classes that it writes
only: the last one that goes there is there afterwards, and without one the file is as it was.
A class without a slash in its name goes there exactly if its file has the name of the master's
file and its directory is the master's. No class goes to a master that is named after its own. -/
theorem master_after_run {result : Except RunError RunReport}
    (hrun : (run logger config).perform desk = (result, after))
    (hlog : ∀ place, desk.disk.filePlace? config.master = some place →
      logger.place? desk.disk ≠ some place ∧ logger.place? after.disk ≠ some place) :
    ∃ written,
      (run logger config).writes desk = written.map (writeOf config.outputDir) ∧
      let masterPlace? := after.disk.filePlace? config.master
      let onMaster := classesAt after.disk config.outputDir masterPlace? written
      after.disk.content? config.master =
        (desk.disk.content? config.master).map (lastText onMaster) ∧
      (∀ file ∈ written, '/' ∉ file.className →
        (file ∈ onMaster ↔ Path.fileName? config.master = some file.fileName ∧
          ∃ above, after.disk.enter (Path.parts config.outputDir)
              (if Path.isAbsolute config.outputDir then [] else Disk.home) = .ok above ∧
            masterPlace? = some (above ++ [file.fileName]))) ∧
      ∀ catalog fileName text,
        ((prepare (spanned logger config) config).perform desk).1 = .ok (catalog, fileName, text) →
        let request := requestOf config catalog fileName text
        (∀ file ∈ written, ∃ entry ∈ request.table.targets, request.outcome entry = .ok file) ∧
        (fileName = request.defaultClass ++ ".java".toList →
          (∀ entry ∈ request.table.targets, '/' ∉ entry.className) → onMaster = []) := by
  rcases h : (produce (spanned logger config) config).perform desk with ⟨error | product, ready⟩
  · -- nothing is written, and notes go elsewhere
    obtain ⟨hfails, hwrites⟩ := run_of_error config h
    obtain ⟨rfl, rfl⟩ := Prod.mk.inj (hrun.symm.trans hfails)
    refine ⟨[], hwrites, ?_, by simp, by simp [classesAt]⟩
    rw [(noted_produce h).content? fun place hplace => by simpa using (hlog place hplace).1]
    exact (congrFun Option.map_id _).symm
  · obtain ⟨hprepare, hfiles⟩ := prepare_of_produce h
    obtain ⟨⟨old, hread, -⟩, hname, -⟩ := prepare_eq_ok_iff.1 hprepare
    obtain ⟨place, hold⟩ := Disk.read_eq_ok_iff.1 hread
    obtain ⟨hbefore, hafter⟩ := hlog place hold.1
    obtain ⟨written, hinitial, hwrites, hplaced, hholds⟩ :=
      holds_of_produce h hrun hold hbefore hafter
    have hgoes : ∀ file ∈ written, '/' ∉ file.className → _ := fun file hfile hslash =>
      placeOf_eq_master_iff hname hholds hslash (hplaced file hfile)
    refine ⟨written, hwrites, ?_, fun file hfile hslash => ?_, ?_⟩
    · rw [Disk.content?_eq_some_iff.2 ⟨place, hold⟩, Disk.content?_eq_some_iff.2 ⟨place, hholds⟩,
        hholds.1]
      rfl
    · rw [mem_classesAt_iff, and_iff_right hfile]
      exact hgoes file hfile hslash
    · intro catalog fileName text hother request
      obtain ⟨rfl, rfl, rfl⟩ : product.catalog = catalog ∧ product.fileName = fileName ∧
          product.text = text := by simpa using hprepare.symm.trans hother
      have houtcome : ∀ file ∈ written, ∃ entry ∈ request.table.targets,
          request.outcome entry = .ok file := fun file hfile =>
        outcome_of_mem_files (hfiles ▸ hinitial.subset hfile)
      refine ⟨houtcome, fun hfileName hslash => List.eq_nil_iff_forall_not_mem.2 fun file hmem => ?_⟩
      -- a class at the master's file would be the master's own, which is refused
      obtain ⟨hfile, hplace⟩ := mem_classesAt_iff.1 hmem
      obtain ⟨entry, hentry, hok⟩ := houtcome file hfile
      have hslashes := slash_not_mem_of_outcome hok (hslash entry hentry)
      have hsame := ((hgoes file hfile hslashes).1 hplace).1
      rw [hname, hfileName] at hsame
      exact fileName_ne_of_outcome hok (Option.some.inj hsame).symm

/-- A desk with an interface in a file that is named after another of its type's siblings. -/
def misnamedDesk : Desk :=
  .ofDisk ⟨[(Disk.home, .directory), (Disk.home ++ ["FloatDataset.java".toList],
    .file (Text.encode "interface DoubleDataset { double v; }".toList))]⟩

/-- A run for the siblings, into the directory of their master. -/
def misnamedConfig : RunConfig where
  master := "FloatDataset.java".toList
  catalog := none
  outputDir := ".".toList
  scope := .global
  required := some .empty
  stripBaseClass := false
  policy := .failFast
  dryRun := false
  header := false

/-- **A master with the name of a sibling's file is overwritten** by the sibling. -/
theorem misnamed_master_overwritten :
    misnamedDesk.disk.content? misnamedConfig.master =
        some (Text.encode "interface DoubleDataset { double v; }".toList) ∧
      ((run .silent misnamedConfig).perform misnamedDesk).2.disk.content? misnamedConfig.master =
        some (Text.encode "interface FloatDataset { float v; }".toList) := by
  decide +kernel

theorem master_after_run_misnamed :
    ∃ result after written,
      (run .silent misnamedConfig).perform misnamedDesk = (result, after) ∧
      (∀ place, misnamedDesk.disk.filePlace? misnamedConfig.master = some place →
        Logger.silent.place? misnamedDesk.disk ≠ some place ∧
          Logger.silent.place? after.disk ≠ some place) ∧
      (run .silent misnamedConfig).writes misnamedDesk =
        written.map (writeOf misnamedConfig.outputDir) ∧
      let onMaster := classesAt after.disk misnamedConfig.outputDir
        (after.disk.filePlace? misnamedConfig.master) written
      onMaster ≠ [] ∧ after.disk.content? misnamedConfig.master =
        (misnamedDesk.disk.content? misnamedConfig.master).map (lastText onMaster) := by
  have hlog : ∀ disk place, Logger.silent.place? disk ≠ some place := by
    simp [Logger.place?, Logger.silent]
  rcases hrun : (run .silent misnamedConfig).perform misnamedDesk with ⟨result, after⟩
  obtain ⟨written, hwrites, hcontent, -⟩ :=
    master_after_run hrun fun place _ => ⟨hlog _ place, hlog _ place⟩
  have hchanged : after.disk.content? misnamedConfig.master ≠
      misnamedDesk.disk.content? misnamedConfig.master := by
    have hafter : ((run .silent misnamedConfig).perform misnamedDesk).2 = after := by rw [hrun]
    rw [← hafter]
    decide +kernel
  refine ⟨result, after, written, rfl, fun place _ => ⟨hlog _ place, hlog _ place⟩, hwrites, ?_,
    hcontent⟩
  intro hnone
  rw [hnone] at hcontent
  exact hchanged (hcontent.trans (congrFun Option.map_id _))

end Run

end Siblings
