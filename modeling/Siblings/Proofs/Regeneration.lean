import Siblings.Proofs.MasterFile

/-!
# Running again

A run that succeeds can be run again: it reads what it read before, finds its directory, and
writes the same classes to the same places.

* `Disk.setAll_setAll`: **files that are written again** leave the disk as it is.
* `prepare_again`: a run prepares the same while its master and its catalog stay.
* `writeFiles_again`: a delivery can be repeated.
* `run_again`: **a run can be repeated.**
-/

namespace Siblings

namespace Disk

variable {disk disk' : Disk} {path : Text} {place : Place} {places : List Place}
  {files : List (Place × List UInt8)} {bytes : List UInt8}

/-! ## Files that are written again -/

/-- A disk with some files written to it, one after the other. -/
def setAll (disk : Disk) (files : List (Place × List UInt8)) : Disk :=
  files.foldl (fun disk file => disk.set file.1 (.file file.2)) disk

/-- What is on a disk at other places than some. -/
def besides (disk : Disk) (places : List Place) : List (Place × Node) :=
  disk.nodes.filter fun entry => entry.1 ∉ places

/-- What is at other places stays. -/
theorem besides_set_of_mem (h : place ∈ places) (node : Node) :
    (disk.set place node).besides places = disk.besides places := by
  unfold besides set
  rw [List.filter_cons_of_neg (by simpa using h), List.filter_filter]
  refine List.filter_congr fun entry _ => ?_
  by_cases hentry : entry.1 ∈ places
  · simp [hentry]
  · have hne : entry.1 ≠ place := fun heq => hentry (heq ▸ h)
    simp [hentry, hne]

/-- What was at a place does not matter once it is set. -/
theorem besides_set_congr {node : Node}
    (h : disk.besides (place :: places) = disk'.besides (place :: places)) :
    (disk.set place node).besides places = (disk'.set place node).besides places := by
  have hset : ∀ disk : Disk, (disk.set place node).besides places =
      [(place, node)].filter (·.1 ∉ places) ++ disk.besides (place :: places) := by
    intro disk
    unfold besides set
    rw [← List.singleton_append, List.filter_append, List.filter_filter]
    refine congrArg _ (List.filter_congr fun entry _ => ?_)
    by_cases hentry : entry.1 = place <;> simp [hentry]
  rw [hset, hset, h]

theorem besides_setAll (h : ∀ file ∈ files, file.1 ∈ places) :
    (disk.setAll files).besides places = disk.besides places := by
  induction files generalizing disk with
  | nil => rfl
  | cons file files ih =>
    rw [List.forall_mem_cons] at h
    exact (ih h.2).trans (besides_set_of_mem h.1 _)

theorem setAll_congr (h : disk.besides (files.map Prod.fst) = disk'.besides (files.map Prod.fst)) :
    disk.setAll files = disk'.setAll files := by
  induction files generalizing disk disk' with
  | nil =>
    have hnodes : disk.nodes = disk'.nodes := by simpa [besides] using h
    exact congrArg Disk.mk hnodes
  | cons file files ih => exact ih (besides_set_congr h)

/-- **Files that are written again** leave the disk as it is, also where several go to one
place. -/
theorem setAll_setAll (disk : Disk) (files : List (Place × List UInt8)) :
    (disk.setAll files).setAll files = disk.setAll files :=
  setAll_congr (besides_setAll fun _ hfile => List.mem_map_of_mem hfile)

/-- A file that is there is present. -/
theorem isPresent_of_holds (h : disk.Holds path place bytes) : disk.isPresent path = true := by
  obtain ⟨hlocate, hslash, -⟩ := filePlace?_eq_some_iff.1 h.1
  simp [isPresent, hlocate, h.2, hslash]

end Disk

/-! ## Loggers that leave the disk alone -/

namespace Logger

variable {logger : Logger} {before after : Disk}

/-- A logger that writes no line to a file. -/
def Quiet (logger : Logger) : Prop := logger.threshold = none ∨ logger.file = none

theorem Quiet.within (h : logger.Quiet) (name : String) (detail : Attribute) :
    (logger.within name detail).Quiet := by
  rwa [Quiet, threshold_within, file_within]

theorem Quiet.spares (h : logger.Quiet) (level : Level) (disk : Disk) (place : Disk.Place) :
    logger.Spares level disk place := by
  intro hshows
  rcases h with hthreshold | hfile
  · simp [shows, hthreshold] at hshows
  · simp [place?, hfile]

theorem Noted.eq_of_quiet (h : logger.Noted before after) (hquiet : logger.Quiet) :
    after = before := by
  refine h.quiet (hquiet.imp_right fun hfile => ?_)
  rw [place?, hfile]
  rfl

end Logger

/-! ## What a run reads -/

namespace Catalog

variable {logger : Logger} {desk again : Desk} {name : Text} {catalog : Catalog}

/-- Whether a name is that of a built-in catalog. -/
def isBuiltin (name : Text) : Bool := Builtin.all.any (·.name == name)

theorem perform_loadBuiltin_fst (logger : Logger) (name : Text) (desk : Desk) :
    ((loadBuiltin logger name).perform desk).1 = builtin name := by
  unfold loadBuiltin
  cases builtin name <;> simp [Script.perform]

theorem perform_load_fst (logger : Logger) (path : Text) (desk : Desk) :
    ((load logger path).perform desk).1 =
      match desk.disk.read path with
      | .error fault => .error (.unreadable path (.disk fault))
      | .ok bytes => ofBytes path bytes := by
  unfold load
  rw [Script.perform]
  cases desk.disk.read path with
  | error fault => rfl
  | ok bytes =>
    dsimp only
    cases ofBytes path bytes <;> simp [Script.perform]

/-- A catalog that was loaded is loaded again while its file stays. -/
theorem load_again (h : ((load logger name).perform desk).1 = .ok catalog)
    (hkept : ∀ place bytes, desk.disk.Holds name place bytes → again.disk.Holds name place bytes) :
    again.disk.isPresent name = true ∧ ((load logger name).perform again).1 = .ok catalog := by
  rw [perform_load_fst] at h ⊢
  cases hread : desk.disk.read name with
  | error fault =>
    rw [hread] at h
    simp at h
  | ok bytes =>
    rw [hread] at h
    obtain ⟨place, hold⟩ := Disk.read_eq_ok_iff.1 hread
    have hholds := hkept place bytes hold
    refine ⟨Disk.isPresent_of_holds hholds, ?_⟩
    rw [Disk.read_eq_ok_iff.2 ⟨place, hholds⟩]
    exact h

theorem builtin_eq_error (h : isBuiltin name = false) : builtin name = .error (.unknown name) := by
  unfold builtin
  rw [List.find?_eq_none.2]
  simpa [isBuiltin] using h

/-- **The catalog of a name or path** is found again while its file stays, if it has one. -/
theorem resolve_again (h : ((resolve logger name).perform desk).1 = .ok catalog)
    (hkept : isBuiltin name = false → ∀ place bytes, desk.disk.Holds name place bytes →
      again.disk.Holds name place bytes) :
    ((resolve logger name).perform again).1 = .ok catalog := by
  unfold resolve at h ⊢
  rw [← isBuiltin] at h ⊢
  cases hbuiltin : isBuiltin name with
  | true =>
    rw [hbuiltin, if_pos rfl, perform_loadBuiltin_fst] at h
    rw [if_pos rfl, perform_loadBuiltin_fst, h]
  | false =>
    rw [hbuiltin, if_neg (by simp)] at h
    rw [if_neg (by simp)]
    split
    · rename_i hending
      rw [if_pos hending] at h
      exact (load_again h (hkept hbuiltin)).2
    · rename_i hending
      rw [if_neg hending, Script.perform] at h
      rw [Script.perform]
      cases hpresent : desk.disk.isPresent name with
      | true =>
        rw [hpresent] at h
        obtain ⟨hthere, hagain⟩ := load_again h (hkept hbuiltin)
        rw [hthere]
        exact hagain
      | false =>
        rw [hpresent, perform_loadBuiltin_fst, builtin_eq_error hbuiltin] at h
        simp at h

end Catalog

namespace Run

open Disk (SameDirectories)

variable {logger : Logger} {config : RunConfig} {desk after again : Desk} {outputDir : Text}
  {files : List GeneratedFile}

/-- **The paths that a run reads:** those of the master and of the catalog, unless it is
built-in. -/
def inputs (config : RunConfig) : List Text :=
  config.master :: (config.catalog.filter fun name => !Catalog.isBuiltin name).toList

theorem perform_forMaster_fst (logger : Logger) (fileName : Text) (desk : Desk) :
    ((Catalog.forMaster logger fileName).perform desk).1 = Catalog.forMaster? fileName := by
  unfold Catalog.forMaster
  rw [Script.perform_bind]
  cases Catalog.forMaster? fileName <;> simp

theorem selectCatalog_again {named : Option Text} {fileName : Text} {catalog : Catalog}
    (h : ((selectCatalog logger named fileName).perform desk).1 = .ok catalog)
    (hkept : ∀ name, named = some name → Catalog.isBuiltin name = false → ∀ place bytes,
      desk.disk.Holds name place bytes → again.disk.Holds name place bytes) :
    ((selectCatalog logger named fileName).perform again).1 = .ok catalog := by
  unfold selectCatalog at h ⊢
  cases named with
  | some name =>
    simp only [Script.perform_bind, Script.perform_pure, mapError_eq_ok_iff] at h ⊢
    exact Catalog.resolve_again h (hkept name rfl)
  | none =>
    simp only [Script.perform_bind, perform_forMaster_fst] at h ⊢
    cases hfound : Catalog.forMaster? fileName with
    | some found => simpa [hfound] using h
    | none => simpa [hfound, Script.perform_bind] using h

/-- **What is prepared once is prepared again** while the files that a run reads stay. -/
theorem prepare_again {found : Catalog × Text × Text}
    (h : ((prepare logger config).perform desk).1 = .ok found)
    (hkept : ∀ path ∈ inputs config, ∀ place bytes, desk.disk.Holds path place bytes →
      again.disk.Holds path place bytes) :
    ((prepare logger config).perform again).1 = .ok found := by
  obtain ⟨catalog, fileName, text⟩ := found
  obtain ⟨⟨bytes, hread, hdecode⟩, hname, hcatalog⟩ := prepare_eq_ok_iff.1 h
  obtain ⟨place, hold⟩ := Disk.read_eq_ok_iff.1 hread
  have hmaster := hkept config.master (by simp [inputs]) place bytes hold
  refine prepare_eq_ok_iff.2 ⟨⟨bytes, Disk.read_eq_ok_iff.2 ⟨place, hmaster⟩, hdecode⟩, hname, ?_⟩
  refine selectCatalog_again hcatalog fun name hnamed hbuiltin => hkept name ?_
  simp [inputs, hnamed, hbuiltin]

/-! ## The delivery -/

/-- The places of some classes, with their bytes. -/
def placements (disk : Disk) (outputDir : Text) (files : List GeneratedFile) :
    List (Disk.Place × List UInt8) :=
  files.filterMap fun file =>
    (placeOf disk outputDir file).map fun place => (place, Text.encode file.text)

theorem placements_congr {before after : Disk} (h : SameDirectories before after)
    (outputDir : Text) (files : List GeneratedFile) :
    placements after outputDir files = placements before outputDir files := by
  simp only [placements, placeOf_congr h]

/-- **Classes that have a place are written there,** and nothing else happens to the disk. -/
theorem perform_writeEach (hquiet : logger.Quiet)
    (hplaced : ∀ file ∈ files, ∃ place, placeOf desk.disk outputDir file = some place) :
    ∃ after, (writeEach logger outputDir files).perform desk =
        (.ok (files.map (plan outputDir)), after) ∧
      after.disk = desk.disk.setAll (placements desk.disk outputDir files) := by
  induction files generalizing desk with
  | nil => exact ⟨desk, rfl, rfl⟩
  | cons file files ih =>
    obtain ⟨⟨place, hplace⟩, hrest⟩ := List.forall_mem_cons.1 hplaced
    let disk := desk.disk.set place (.file (Text.encode file.text))
    have hwrite : desk.disk.write (plan outputDir file).path (Text.encode file.text) = .ok disk :=
      Disk.write_eq_ok_iff.2 ⟨place, hplace, rfl⟩
    have hset : SameDirectories desk.disk disk :=
      Disk.sameDirectories_set (Disk.filePlace?_eq_some_iff.1 hplace).2.2 _
    rw [writeEach, Script.perform, hwrite]
    simp only [Desk.change, Script.perform_bind, Script.perform_pure]
    -- the line about the class is shown, and the disk stays as it is
    generalize hnoted : ((logger.note .debug "wrote class" _).perform _).2 = noted
    have hdisk : noted.disk = disk := by
      rw [← hnoted]
      exact (Logger.noted_note _ _ _ _).eq_of_quiet hquiet
    have hrest' : ∀ file ∈ files, ∃ place, placeOf noted.disk outputDir file = some place := by
      simpa only [hdisk, placeOf_congr hset] using hrest
    obtain ⟨after, hperform, hafter⟩ := ih hrest'
    rw [hperform]
    refine ⟨after, rfl, ?_⟩
    rw [hafter, hdisk, placements_congr hset]
    simp [placements, hplace, Disk.setAll, disk]

theorem writeEach_again {outputs : List OutputFile} (hquiet : logger.Quiet)
    (h : (writeEach logger outputDir files).perform desk = (.ok outputs, after))
    (hagain : again.disk = after.disk) :
    ∃ last, (writeEach logger outputDir files).perform again = (.ok outputs, last) ∧
      last.disk = after.disk := by
  obtain ⟨front, back, rfl, hwrote, -, ⟨rfl, -⟩ | ⟨file, rest, fault, -, -, herror⟩⟩ :=
    writeEach_cases h
  · rw [List.append_nil] at h ⊢
    obtain ⟨first, hfirst, hdisk⟩ := perform_writeEach hquiet hwrote.placed
    obtain ⟨hok, rfl⟩ := Prod.mk.inj (h.symm.trans hfirst)
    have hsame : SameDirectories desk.disk again.disk := hagain ▸ hwrote.same
    have hplaced : ∀ file ∈ front, ∃ place, placeOf again.disk outputDir file = some place := by
      simpa only [placeOf_congr hsame] using hwrote.placed
    obtain ⟨last, hlast, hdisk'⟩ := perform_writeEach hquiet hplaced
    refine ⟨last, hlast.trans (by rw [hok]), ?_⟩
    rw [hdisk', placements_congr hsame, hagain, hdisk, Disk.setAll_setAll]
  · simp at herror

/-- **A delivery can be repeated:** on the disk that it leaves it writes the same, and leaves it as
it is. -/
theorem writeFiles_again {outputs : List OutputFile} (hquiet : logger.Quiet)
    (h : (writeFiles logger outputDir files).perform desk = (.ok outputs, after))
    (hagain : again.disk = after.disk) :
    ∃ last, (writeFiles logger outputDir files).perform again = (.ok outputs, last) ∧
      last.disk = after.disk := by
  unfold writeFiles at h ⊢
  by_cases hnil : files.isEmpty = true
  · rw [if_pos hnil] at h ⊢
    obtain ⟨hok, rfl⟩ := Prod.mk.inj h
    exact ⟨again, Prod.ext hok rfl, hagain⟩
  · rw [if_neg hnil, Script.perform_bind] at h ⊢
    cases hmade : ((Script.makeDirectories outputDir).perform desk).1 with
    | error fault =>
      rw [hmade] at h
      simp at h
    | ok made =>
      rw [hmade] at h
      have hsame := sameDirectories_writeEach h
      rw [Script.makeDirectories_again hmade (hagain ▸ hsame)]
      exact writeEach_again hquiet h hagain

/-! ## The whole run -/

theorem produce_again {product : Product}
    (h : ((produce logger config).perform desk).1 = .ok product)
    (hkept : ∀ path ∈ inputs config, ∀ place bytes, desk.disk.Holds path place bytes →
      again.disk.Holds path place bytes) :
    ((produce logger config).perform again).1 = .ok product := by
  rw [perform_produce_fst] at h ⊢
  cases hprepare : ((prepare logger config).perform desk).1 with
  | error error =>
    rw [hprepare] at h
    simp at h
  | ok found =>
    rw [hprepare] at h
    rw [prepare_again hprepare hkept]
    exact h

/-- **A file that no class goes to** is as it was once classes are delivered. -/
theorem holds_of_writeFiles {outputs : List OutputFile} {path : Text} {place : Disk.Place}
    {bytes : List UInt8} (hquiet : logger.Quiet)
    (h : (writeFiles logger outputDir files).perform desk = (.ok outputs, after))
    (hapart : ∀ output ∈ outputs, after.disk.filePlace? output.path ≠ after.disk.filePlace? path)
    (hold : desk.disk.Holds path place bytes) : after.disk.Holds path place bytes := by
  obtain ⟨front, made, hdelivers, -, hends⟩ := writeFiles_cases h
  cases hends with
  | all hall =>
    subst hall
    have hmade := hdelivers.adds.addsDirectories.holds hold
    have hafter := hdelivers.wrote.holds (hquiet.spares _ _ _) hmade
    have hnone : classesAt made outputDir (some place) front = [] := by
      rw [← classesAt_congr hdelivers.wrote.same, List.eq_nil_iff_forall_not_mem]
      intro file hmem
      obtain ⟨hfile, hplace⟩ := mem_classesAt_iff.1 hmem
      exact hapart (plan outputDir file) (List.mem_map_of_mem hfile) (hplace.trans hafter.1.symm)
    rwa [hnone] at hafter

/-- **A run can be repeated.** If a run succeeds that is not dry, and no class goes to a file that
it reads, then it succeeds again with the same report, and leaves the disk as it was left. -/
theorem run_again {report : RunReport} (hwet : config.dryRun = false) (hquiet : logger.Quiet)
    (hrun : (run logger config).perform desk = (.ok report, after))
    (hapart : ∀ output ∈ report.files, ∀ path ∈ inputs config,
      after.disk.filePlace? output.path ≠ after.disk.filePlace? path) :
    ∃ last, (run logger config).perform after = (.ok report, last) ∧
      last.disk = after.disk := by
  have hspanned : (spanned logger config).Quiet := hquiet.within _ _
  obtain ⟨product, ready, outputs, written, hproduce, hdeliver, rfl, hafter⟩ :=
    (run_eq_ok_iff hwet).1 hrun
  have hready : ready.disk = desk.disk := (noted_produce hproduce).eq_of_quiet hspanned
  have hwritten : after.disk = written.disk := by
    rw [← hafter]
    exact (Logger.noted_note _ _ _ _).eq_of_quiet hspanned
  have hkept : ∀ path ∈ inputs config, ∀ place bytes, desk.disk.Holds path place bytes →
      after.disk.Holds path place bytes := by
    rw [hwritten] at hapart ⊢
    rw [← hready]
    exact fun path hpath place bytes => holds_of_writeFiles hspanned hdeliver fun output houtput =>
      hapart output houtput path hpath
  have hagain := produce_again (congrArg Prod.fst hproduce) hkept
  rcases hproduce' : (produce (spanned logger config) config).perform after with ⟨result, ready'⟩
  obtain rfl : result = .ok product := (congrArg Prod.fst hproduce').symm.trans hagain
  have hready' : ready'.disk = written.disk :=
    ((noted_produce hproduce').eq_of_quiet hspanned).trans hwritten
  obtain ⟨written', hdeliver', hwritten'⟩ := writeFiles_again hspanned hdeliver hready'
  refine ⟨_, (run_eq_ok_iff hwet).2
    ⟨product, ready', outputs, written', hproduce', hdeliver', rfl, rfl⟩, ?_⟩
  rw [hwritten, ← hwritten']
  exact (Logger.noted_note _ _ _ _).eq_of_quiet hspanned

theorem run_again_pair :
    ∃ report after last, pairConfig.dryRun = false ∧ Logger.silent.Quiet ∧
      (run .silent pairConfig).perform pairDesk = (.ok report, after) ∧
      (∀ output ∈ report.files, ∀ path ∈ inputs pairConfig,
        after.disk.filePlace? output.path ≠ after.disk.filePlace? path) ∧
      report.files.map OutputFile.path = ["out/F.java".toList, "out/F.java".toList] ∧
      (run .silent pairConfig).perform after = (.ok report, last) ∧ last.disk = after.disk := by
  have hpaths : ((run .silent pairConfig).perform pairDesk).1.toOption.map
      (fun report => report.files.map OutputFile.path) =
        some ["out/F.java".toList, "out/F.java".toList] := by
    decide +kernel
  have hplaces : ∀ path ∈ inputs pairConfig,
      ((run .silent pairConfig).perform pairDesk).2.disk.filePlace? "out/F.java".toList ≠
        ((run .silent pairConfig).perform pairDesk).2.disk.filePlace? path := by
    decide +kernel
  rcases hrun : (run .silent pairConfig).perform pairDesk with ⟨error | report, after⟩
  · rw [hrun] at hpaths
    simp [Except.toOption] at hpaths
  rw [hrun] at hpaths hplaces
  have hlist : report.files.map OutputFile.path = ["out/F.java".toList, "out/F.java".toList] :=
    Option.some.inj hpaths
  have hapart : ∀ output ∈ report.files, ∀ path ∈ inputs pairConfig,
      after.disk.filePlace? output.path ≠ after.disk.filePlace? path := by
    intro output houtput path hpath
    have hmem := List.mem_map_of_mem (f := OutputFile.path) houtput
    rw [hlist] at hmem
    obtain heq : output.path = "out/F.java".toList := by simpa using hmem
    rw [heq]
    exact hplaces path hpath
  obtain ⟨last, hagain, hdisk⟩ := run_again rfl (.inl rfl) hrun hapart
  exact ⟨report, after, last, rfl, .inl rfl, rfl, hapart, hlist, hagain, hdisk⟩

end Run

end Siblings
