import Siblings.Proofs.Delivery

/-!
# Runs that leave the disk as it was

A run writes classes in its last part only. What comes before reads the master and the catalog,
derives every class, and notes what happens: it changes the log file at most.

* `Logger.Noted`: **what holds of the disk before and after events are noted.**
* `Script.OnlyNotes`: scripts that change the disk by noting events only.
* `Script.Passive`: those of them that write no file.
* `passive_prepare`, `passive_generate`: the parts of a run in front of the delivery.
* `unwritable_of_writeFiles`: the delivery fails for a class or directory that cannot be written.
* `run_leaves_disk`: **a run that fails before that, or is dry, changes nothing.**
-/

namespace Siblings

namespace Logger

variable {logger : Logger} {before middle after : Disk}

/-- **What holds of the disk before and after events are noted:** nothing but the log file
changes, and it grows. -/
structure Noted (logger : Logger) (before after : Disk) : Prop where
  same : before.SameDirectories after
  /-- Every place but that of the log file holds what it held. -/
  others : ∀ place, logger.place? before ≠ some place → after.node? place = before.node? place
  grows : ∀ place, ∃ more, after.bytesAt place = before.bytesAt place ++ more
  /-- A logger that shows nothing, or nothing in a file, leaves the disk as it was. -/
  quiet : logger.threshold = none ∨ logger.place? before = none → after = before

theorem Noted.refl (logger : Logger) (disk : Disk) : logger.Noted disk disk where
  same := Disk.SameDirectories.refl disk
  others := fun _ _ => rfl
  grows := fun _ => ⟨[], (List.append_nil _).symm⟩
  quiet := fun _ => rfl

theorem Noted.trans (h : logger.Noted before middle) (h' : logger.Noted middle after) :
    logger.Noted before after := by
  have hplace : logger.place? middle = logger.place? before := place?_congr h.same
  constructor
  case same => exact h.same.trans h'.same
  case others =>
    intro place hne
    rw [h'.others place (hplace ▸ hne), h.others place hne]
  case grows =>
    intro place
    obtain ⟨more, hmore⟩ := h.grows place
    obtain ⟨rest, hrest⟩ := h'.grows place
    exact ⟨more ++ rest, by rw [hrest, hmore, List.append_assoc]⟩
  case quiet =>
    intro hquiet
    rw [h'.quiet (hplace ▸ hquiet), h.quiet hquiet]

@[simp]
theorem threshold_within (name : String) (detail : Attribute) :
    (logger.within name detail).threshold = logger.threshold := by
  unfold within
  split <;> rfl

theorem noted_within {name : String} {detail : Attribute} :
    (logger.within name detail).Noted before after ↔ logger.Noted before after := by
  constructor
  · intro h
    refine ⟨h.same, fun place hne => h.others place ?_, h.grows, fun hquiet => h.quiet ?_⟩
    · rwa [place?_within]
    · rwa [threshold_within, place?_within]
  · intro h
    refine ⟨h.same, fun place hne => h.others place ?_, h.grows, fun hquiet => h.quiet ?_⟩
    · rwa [place?_within] at hne
    · rwa [threshold_within, place?_within] at hquiet

/-- **An event is noted** in the log file, or nowhere on the disk. -/
theorem noted_note (level : Level) (message : String) (attributes : List Attribute)
    (desk : Desk) :
    logger.Noted desk.disk ((logger.note level message attributes).perform desk).2.disk := by
  constructor
  case same => exact sameDirectories_note desk message attributes
  case others =>
    intro place hne
    rw [node?_note, if_neg fun h => hne h.2]
  case grows =>
    intro place
    by_cases h : logger.shows level = true ∧ logger.place? desk.disk = some place
    · exact ⟨_, by rw [Disk.bytesAt, node?_note, if_pos h]⟩
    · refine ⟨[], ?_⟩
      rw [Disk.bytesAt, node?_note, if_neg h, ← Disk.bytesAt, List.append_nil]
  case quiet =>
    intro hquiet
    rw [disk_note]
    rcases hquiet with hsilent | hnowhere
    · simp [shows, hsilent]
    · simp [hnowhere, Disk.grown]

end Logger

/-! ## Scripts that only note -/

namespace Script

variable {α β : Type} {logger : Logger}

/-- **A script that changes the disk by noting events only.** -/
def OnlyNotes (logger : Logger) (script : Script α) : Prop :=
  ∀ desk, logger.Noted desk.disk (script.perform desk).2.disk

/-- A script that notes events only: it writes no file, and shows no result. -/
structure Passive (logger : Logger) (script : Script α) : Prop where
  onlyNotes : OnlyNotes logger script
  writes_eq_nil : ∀ desk, script.writes desk = []
  out_eq : ∀ desk, (script.perform desk).2.out = desk.out

theorem Passive.done (result : α) : Passive logger (.done result) where
  onlyNotes := fun desk => Logger.Noted.refl logger desk.disk
  writes_eq_nil := fun _ => rfl
  out_eq := fun _ => rfl

theorem Passive.pure (result : α) : Passive logger (Pure.pure result) := .done result

theorem Passive.bind {script : Script α} {f : α → Script β} (h : Passive logger script)
    (hf : ∀ result, Passive logger (f result)) : Passive logger (script >>= f) where
  onlyNotes := by
    intro desk
    rw [perform_bind]
    exact (h.onlyNotes desk).trans ((hf _).onlyNotes _)
  writes_eq_nil := by
    intro desk
    rw [writes_bind, h.writes_eq_nil, (hf _).writes_eq_nil, List.append_nil]
  out_eq := by
    intro desk
    rw [perform_bind, (hf _).out_eq, h.out_eq]

theorem Passive.read {path : Text} {next : Except Fault (List UInt8) → Script α}
    (h : ∀ answer, Passive logger (next answer)) : Passive logger (.read path next) where
  onlyNotes := fun desk => (h _).onlyNotes desk
  writes_eq_nil := fun desk => (h _).writes_eq_nil desk
  out_eq := fun desk => (h _).out_eq desk

theorem Passive.isPresent {path : Text} {next : Bool → Script α}
    (h : ∀ answer, Passive logger (next answer)) : Passive logger (.isPresent path next) where
  onlyNotes := fun desk => (h _).onlyNotes desk
  writes_eq_nil := fun desk => (h _).writes_eq_nil desk
  out_eq := fun desk => (h _).out_eq desk

theorem Passive.clock {next : Nat → Script α} (h : ∀ answer, Passive logger (next answer)) :
    Passive logger (.clock next) where
  onlyNotes := fun desk => (h _).onlyNotes desk
  writes_eq_nil := fun desk => (h _).writes_eq_nil desk
  out_eq := fun desk => (h _).out_eq desk

theorem Passive.note (level : Level) (message : String) (attributes : List Attribute) :
    Passive logger (logger.note level message attributes) where
  onlyNotes := fun desk => Logger.noted_note level message attributes desk
  writes_eq_nil := fun desk => Logger.writes_note desk message attributes
  out_eq := fun desk => Logger.out_note desk message attributes

theorem Passive.within {script : Script α} (name : String) (detail : Attribute)
    (h : Passive (logger.within name detail) script) : Passive logger script where
  onlyNotes := fun desk => Logger.noted_within.1 (h.onlyNotes desk)
  writes_eq_nil := h.writes_eq_nil
  out_eq := h.out_eq

theorem Passive.forM {items : List α} {f : α → Script Unit}
    (h : ∀ item, Passive logger (f item)) : Passive logger (items.forM f) := by
  induction items with
  | nil => exact .pure ()
  | cons item items ih => exact (h item).bind fun _ => ih

end Script

open Script (OnlyNotes Passive)

variable {logger : Logger}

/-! ## The choice of a catalog -/

namespace Catalog

theorem passive_loadBuiltin (name : Text) : Passive logger (loadBuiltin logger name) := by
  unfold loadBuiltin
  split
  · exact .done _
  · exact (Passive.note _ _ _).bind fun _ => .pure _

theorem passive_load (path : Text) : Passive logger (load logger path) := by
  refine Passive.read fun answer => ?_
  split
  · exact .done _
  · split
    · exact .done _
    · exact (Passive.note _ _ _).bind fun _ => .pure _

theorem passive_resolve (name : Text) : Passive logger (resolve logger name) := by
  unfold resolve
  split
  · exact passive_loadBuiltin name
  · split
    · exact passive_load name
    · refine Passive.isPresent fun answer => ?_
      cases answer with
      | true => exact passive_load name
      | false => exact passive_loadBuiltin name

theorem passive_forMaster (fileName : Text) : Passive logger (forMaster logger fileName) := by
  refine (Passive.forM fun _ => .note _ _ _).bind fun _ => ?_
  split
  · exact .pure _
  · exact (Passive.note _ _ _).bind fun _ => .pure _

end Catalog

namespace Run

variable {config : RunConfig} {desk after : Desk}

theorem passive_readMaster (path : Text) : Passive logger (readMaster path) := by
  refine Passive.read fun answer => ?_
  cases answer with
  | error fault => exact .done _
  | ok bytes => exact .done _

theorem passive_selectCatalog (named : Option Text) (fileName : Text) :
    Passive logger (selectCatalog logger named fileName) := by
  unfold selectCatalog
  cases named with
  | some name => exact (Catalog.passive_resolve name).bind fun _ => .pure _
  | none =>
    refine (Catalog.passive_forMaster fileName).bind fun found => ?_
    cases found with
    | some catalog => exact .pure _
    | none =>
      exact (Passive.note _ _ _).bind fun _ => (Passive.note _ _ _).bind fun _ => .pure _

/-! ## The parts of a run -/

theorem passive_prepare : Passive logger (prepare logger config) := by
  refine (passive_readMaster config.master).bind fun read => ?_
  cases read with
  | error fault => exact .pure _
  | ok text =>
    dsimp only
    cases Path.fileName? config.master with
    | none => exact .pure _
    | some fileName =>
      refine (passive_selectCatalog config.catalog fileName).bind fun selected => ?_
      cases selected with
      | error error => exact .pure _
      | ok catalog => exact .pure _

theorem passive_announce (catalog : Catalog) (request : Request) :
    Passive logger (announce logger catalog request) :=
  (Passive.note _ _ _).bind fun _ => .note _ _ _

theorem passive_noteDerived (request : Request) (entry : Entry) (file : GeneratedFile) :
    Passive logger (noteDerived logger request entry file) := by
  refine Passive.within "transmutate" (.bare "target_class" file.className) ?_
  unfold noteDerived
  cases request.options.scope with
  | marked => exact .note _ _ _
  | global =>
    dsimp only
    split
    · exact (Passive.note _ _ _).bind fun _ => .note _ _ _
    · exact .note _ _ _

theorem passive_noteOutcomes (request : Request) (outcomes : List Outcome) :
    Passive logger (noteOutcomes logger request outcomes) := by
  induction outcomes with
  | nil => exact .done _
  | cons outcome outcomes ih =>
    obtain ⟨entry, error | file⟩ := outcome
    · unfold noteOutcomes
      cases request.policy with
      | failFast => exact .done _
      | keepGoing => exact (Passive.note _ _ _).bind fun _ => ih
    · exact (passive_noteDerived request entry file).bind fun _ => ih

theorem passive_generate (request : Request) : Passive logger (generate logger request) := by
  refine Passive.within "generate" (.bare "default_class" request.defaultClass) ?_
  refine (Passive.clock fun _ => .done _).bind fun _ => ?_
  refine (passive_noteOutcomes request request.outcomes).bind fun isOver => ?_
  refine (Passive.clock fun _ => .done _).bind fun _ => ?_
  dsimp only
  split
  · exact (Passive.note _ _ _).bind fun _ => .pure _
  · exact .pure _

theorem onlyNotes_prepare : OnlyNotes logger (prepare logger config) := passive_prepare.onlyNotes

/-! ## The delivery -/

/-- **The delivery fails** for a class or a directory that cannot be written only. -/
theorem unwritable_of_writeFiles {outputDir : Text} {files : List GeneratedFile} {error : GenError}
    (h : (writeFiles logger outputDir files).perform desk = (.error error, after)) :
    ∃ path fault, error = .unwritable path fault := by
  obtain ⟨front, made, -, -, hends⟩ := writeFiles_cases h
  cases hends with
  | refused file rest fault => exact ⟨_, fault, rfl⟩
  | noDirectory fault => exact ⟨outputDir, fault, rfl⟩

theorem unwritable_of_deliver {files : List GeneratedFile} {error : GenError}
    (h : (deliver logger config files).perform desk = (.error error, after)) :
    ∃ path fault, error = .unwritable path fault := by
  unfold deliver at h
  split at h
  · have hresult := congrArg Prod.fst h
    simp [Script.perform] at hresult
  · exact unwritable_of_writeFiles h

theorem noted_deliver {files : List GeneratedFile} {result : Except GenError (List OutputFile)}
    (hdry : config.dryRun = true)
    (h : (deliver logger config files).perform desk = (result, after)) :
    logger.Noted desk.disk after.disk := by
  rw [deliver, if_pos hdry] at h
  obtain ⟨-, rfl⟩ := Prod.mk.inj h
  exact Logger.Noted.refl logger desk.disk

/-! ## The whole run -/

/-- The part of a run that follows its preparation leaves the disk as it was, if the run is dry or
fails for another reason than a class or directory that cannot be written. -/
theorem noted_runWith {catalog : Catalog} {fileName text : Text}
    {result : Except RunError RunReport}
    (hrun : (runWith logger config 0 catalog fileName text).perform desk = (result, after))
    (h : config.dryRun = true ∨
      ∃ error, result = .error error ∧ ∀ path fault, error ≠ .output (.unwritable path fault)) :
    logger.Noted desk.disk after.disk := by
  rw [perform_runWith] at hrun
  have hannounced : logger.Noted desk.disk
      ((announce logger catalog (requestOf config catalog fileName text)).perform desk).2.disk :=
    (passive_announce catalog _).onlyNotes desk
  have hready := hannounced.trans
    ((passive_generate (requestOf config catalog fileName text)).onlyNotes _)
  dsimp only at hrun
  split at hrun
  · obtain ⟨-, rfl⟩ := Prod.mk.inj hrun
    exact hready
  rename_i report hreport
  split at hrun
  · rename_i error written hdeliver
    obtain ⟨rfl, rfl⟩ := Prod.mk.inj hrun
    rcases h with hdry | ⟨error, hresult, hother⟩
    · exact hready.trans (noted_deliver hdry hdeliver)
    · -- a delivery fails for what cannot be written only
      obtain ⟨path, fault, rfl⟩ := unwritable_of_deliver hdeliver
      exact absurd (Except.error.inj hresult).symm (hother path fault)
  · rename_i files written hdeliver
    obtain ⟨rfl, rfl⟩ := Prod.mk.inj hrun
    rcases h with hdry | ⟨error, hresult, -⟩
    · exact (hready.trans (noted_deliver hdry hdeliver)).trans (Logger.noted_note _ _ _ _)
    · simp at hresult

/-- **A run that leaves the disk as it was.** If a run is dry, or fails for another reason than a
class or directory that cannot be written, then no file and no directory is made, changed or
removed; only the log file grows, if there is one. -/
theorem run_leaves_disk {result : Except RunError RunReport}
    (hrun : (run logger config).perform desk = (result, after))
    (h : config.dryRun = true ∨
      ∃ error, result = .error error ∧ ∀ path fault, error ≠ .output (.unwritable path fault)) :
    (logger.file = none → after.disk = desk.disk) ∧ logger.Noted desk.disk after.disk := by
  have hprepared : (spanned logger config).Noted desk.disk
      ((prepare (spanned logger config) config).perform desk).2.disk := onlyNotes_prepare desk
  rw [perform_run] at hrun
  have hnoted : (spanned logger config).Noted desk.disk after.disk := by
    rcases hprepare : (prepare (spanned logger config) config).perform desk with
      ⟨error | ⟨catalog, fileName, text⟩, middle⟩
    · rw [hprepare] at hrun hprepared
      obtain ⟨-, rfl⟩ := Prod.mk.inj hrun
      exact hprepared
    · rw [hprepare] at hrun hprepared
      exact hprepared.trans (noted_runWith hrun h)
  have hlogger : logger.Noted desk.disk after.disk := Logger.noted_within.1 hnoted
  refine ⟨fun hfile => hlogger.quiet (.inr ?_), hlogger⟩
  rw [Logger.place?, hfile]
  rfl

/-- A desk with an interface and a catalog where one token stands for two fields. The first target
agrees on its replacement, the last one does not. -/
def clashDesk : Desk :=
  let toml := "default='D'\n".toList ++
    typeText "D".toList "A".toList "x".toList "x".toList ++
    typeText "F".toList "B".toList "y".toList "y".toList ++
    typeText "G".toList "C".toList "u".toList "v".toList
  .ofDisk ⟨[(Disk.home, .directory),
    (Disk.home ++ ["D.java".toList], .file (Text.encode "interface D".toList)),
    (Disk.home ++ ["c.toml".toList], .file (Text.encode toml))]⟩

def clashConfig : RunConfig where
  master := "D.java".toList
  catalog := some "c.toml".toList
  outputDir := "out".toList
  scope := .global
  required := some .empty
  stripBaseClass := false
  policy := .failFast
  dryRun := false
  header := false

theorem run_leaves_disk_clash :
    ∃ error after, (run .silent clashConfig).perform clashDesk = (.error error, after) ∧
      error = .generation "D.java".toList (.conflictingTokens "x".toList "u".toList "v".toList) ∧
      (∀ path fault, error ≠ .output (.unwritable path fault)) ∧ after.disk = clashDesk.disk := by
  have hfails : ((run .silent clashConfig).perform clashDesk).1.map RunReport.files =
      .error (.generation "D.java".toList
        (.conflictingTokens "x".toList "u".toList "v".toList)) := by
    decide +kernel
  rcases hrun : (run .silent clashConfig).perform clashDesk with ⟨result, after⟩
  rw [hrun] at hfails
  obtain rfl := map_eq_error_iff.1 hfails
  have hother : ∀ path fault, RunError.generation "D.java".toList
      (.conflictingTokens "x".toList "u".toList "v".toList) ≠ .output (.unwritable path fault) := by
    simp
  exact ⟨_, after, rfl, rfl, hother, (run_leaves_disk hrun (.inr ⟨_, rfl, hother⟩)).1 rfl⟩

end Run

end Siblings
