import Siblings.Proofs.Directories
import Siblings.Proofs.Naming
import Siblings.Proofs.Report
import Siblings.Proofs.Run

/-!
# Classes on the disk

A run writes its classes one after the other. A class stays on the disk as it was derived, unless
a later class goes to the same place, or log lines do.

* `Wrote`: what holds of the disk before and after classes are written.
* `writeEach_cases`: **classes are written up to the first that cannot be,** and at each place is
  the last one.
* `Ends`, `writeFiles_cases`: what a delivery does, and how it ends.
* `reads_iff`: when every class is on the disk.
* `placeOf_eq_iff`: when the classes of two types go to one place.
* `classes_on_disk`: **the disk after a run.**
-/

namespace Siblings

/-- Among elements of which some have a property there is a last one. -/
theorem exists_last {α : Type} {p : α → Prop} {items : List α} (h : ∃ a ∈ items, p a) :
    ∃ front last back, items = front ++ last :: back ∧ p last ∧ ∀ b ∈ back, ¬ p b := by
  induction items with
  | nil => simp at h
  | cons item items ih =>
    by_cases hrest : ∃ a ∈ items, p a
    · obtain ⟨front, last, back, rfl, hlast, hback⟩ := ih hrest
      exact ⟨item :: front, last, back, rfl, hlast, hback⟩
    · obtain ⟨a, ha, hpa⟩ := h
      rcases List.mem_cons.1 ha with rfl | ha
      · exact ⟨[], a, items, rfl, hpa, fun b hb hpb => hrest ⟨b, hb, hpb⟩⟩
      · exact absurd ⟨a, ha, hpa⟩ hrest

namespace Run

open Disk (AddsDirectoriesAt SameDirectories Grows)

variable {logger : Logger} {desk : Desk} {outputDir : Text}
  {file : GeneratedFile} {files : List GeneratedFile} {before middle after : Disk}
  {place : Disk.Place}

/-! ## The writing of classes -/

/-- The place of the file of a class. -/
def placeOf (disk : Disk) (outputDir : Text) (file : GeneratedFile) : Option Disk.Place :=
  disk.filePlace? (plan outputDir file).path

theorem placeOf_congr (h : SameDirectories before after) (outputDir : Text)
    (file : GeneratedFile) : placeOf after outputDir file = placeOf before outputDir file :=
  h.filePlace? _

/-- What is read from the path of a class is the file at its place. -/
theorem read_eq_ok_iff_node? {disk : Disk} (hplace : placeOf disk outputDir file = some place)
    {bytes : List UInt8} :
    disk.read (plan outputDir file).path = .ok bytes ↔
      disk.node? place = some (.file bytes) := by
  rw [Disk.read_eq_ok_iff, ← placeOf, hplace]
  simp

/-- **What holds of the disk before and after classes are written.** -/
structure Wrote (logger : Logger) (outputDir : Text) (files : List GeneratedFile)
    (before after : Disk) : Prop where
  same : SameDirectories before after
  /-- Every class has a place. -/
  placed : ∀ file ∈ files, ∃ place, placeOf before outputDir file = some place
  /-- Where no class goes, files change by log lines only. -/
  others : ∀ place, (∀ file ∈ files, placeOf before outputDir file ≠ some place) →
    Grows (logger.Spares .debug before place) place before after
  /-- Where neither a class goes nor a log line, nothing changes. -/
  kept : ∀ place, (∀ file ∈ files, placeOf before outputDir file ≠ some place) →
    logger.Spares .debug before place → after.node? place = before.node? place
  /-- Where classes go there is the last of them, followed by log lines at most. -/
  last : ∀ front file back place, files = front ++ file :: back →
    placeOf before outputDir file = some place →
    (∀ other ∈ back, placeOf before outputDir other ≠ some place) →
    ∃ more, after.node? place = some (.file (Text.encode file.text ++ more)) ∧
      (logger.Spares .debug before place → more = [])

theorem Wrote.nil (logger : Logger) (outputDir : Text) (disk : Disk) :
    Wrote logger outputDir [] disk disk where
  same := SameDirectories.refl disk
  placed := by simp
  others := fun _ _ => Disk.grows_of_eq rfl
  kept := fun _ _ _ => rfl
  last := by simp

/-- **One more class in front:** it is written, log lines follow, then the others. -/
theorem Wrote.cons (hplace : placeOf before outputDir file = some place)
    (hsame : SameDirectories (before.set place (.file (Text.encode file.text))) middle)
    (hgrows : ∀ other, Grows (logger.Spares .debug before other) other
      (before.set place (.file (Text.encode file.text))) middle)
    (hkept : ∀ other, logger.Spares .debug before other →
      middle.node? other = (before.set place (.file (Text.encode file.text))).node? other)
    (h : Wrote logger outputDir files middle after) :
    Wrote logger outputDir (file :: files) before after := by
  have hnode := (Disk.filePlace?_eq_some_iff.1 hplace).2.2
  have hfirst : SameDirectories before middle := (Disk.sameDirectories_set hnode _).trans hsame
  have hplaces : ∀ other, placeOf middle outputDir other = placeOf before outputDir other :=
    placeOf_congr hfirst outputDir
  have hspares : ∀ other,
      logger.Spares .debug middle other = logger.Spares .debug before other := by
    intro other
    unfold Logger.Spares
    rw [Logger.place?_congr hfirst]
  have hset := fun other =>
    Disk.node?_set before place other (.file (Text.encode file.text)) (Disk.ne_nil_of_node? hnode)
  -- where no class goes, the one in front is not written, and none of the others goes there
  have helsewhere : ∀ other,
      (∀ written ∈ file :: files, placeOf before outputDir written ≠ some other) →
      (before.set place (.file (Text.encode file.text))).node? other = before.node? other ∧
        ∀ written ∈ files, placeOf middle outputDir written ≠ some other := by
    intro other hnone
    rw [List.forall_mem_cons] at hnone
    have hne : other ≠ place := fun heq => hnone.1 (heq ▸ hplace)
    exact ⟨(hset other).trans (if_neg hne), fun rest hfile => hplaces rest ▸ hnone.2 rest hfile⟩
  constructor
  case same => exact hfirst.trans h.same
  case placed =>
    rw [List.forall_mem_cons]
    refine ⟨⟨place, hplace⟩, fun other hother => ?_⟩
    rw [← hplaces other]
    exact h.placed other hother
  case others =>
    intro other hnone
    obtain ⟨hwrite, hrest⟩ := helsewhere other hnone
    have hafter := h.others other hrest
    rw [hspares] at hafter
    exact ((Disk.grows_of_eq hwrite).trans (hgrows other)).trans hafter
  case kept =>
    intro other hnone hquiet
    obtain ⟨hwrite, hrest⟩ := helsewhere other hnone
    have hafter := h.kept other hrest
    rw [hspares] at hafter
    exact ((hafter hquiet).trans (hkept other hquiet)).trans hwrite
  case last =>
    intro front last back other heq hlast hback
    cases front with
    | nil =>
      -- no later class goes to the place, so what follows there are log lines
      obtain ⟨rfl, rfl⟩ := List.cons.inj heq
      obtain rfl : place = other := Option.some.inj (hplace.symm.trans hlast)
      have hrest := h.others place fun file hfile => hplaces file ▸ hback file hfile
      rw [hspares] at hrest
      have hwrite := hset place
      rw [if_pos rfl] at hwrite
      exact ((hgrows place).trans hrest) _ hwrite
    | cons first front =>
      obtain ⟨rfl, rfl⟩ := List.cons.inj heq
      rw [← hspares]
      exact h.last front last back other rfl (hplaces last ▸ hlast)
        fun file hfile => hplaces file ▸ hback file hfile

/-- The path of a class, and its bytes, as they are written. -/
def writeOf (outputDir : Text) (file : GeneratedFile) : Text × List UInt8 :=
  ((plan outputDir file).path, Text.encode file.text)

/-- **Classes are written up to the first that cannot be,** which the disk refuses. At each place
is the last that was written there. -/
theorem writeEach_cases {result : Except GenError (List OutputFile)} {written : Desk}
    (h : (writeEach logger outputDir files).perform desk = (result, written)) :
    ∃ front back, front ++ back = files ∧ Wrote logger outputDir front desk.disk written.disk ∧
      (writeEach logger outputDir files).writes desk = front.map (writeOf outputDir) ∧
      (back = [] ∧ result = .ok (files.map (plan outputDir)) ∨
        ∃ file rest fault, back = file :: rest ∧
          written.disk.write (plan outputDir file).path (Text.encode file.text) = .error fault ∧
          result = .error (.unwritable (plan outputDir file).path fault)) := by
  induction files generalizing desk result with
  | nil =>
    obtain ⟨rfl, rfl⟩ := Prod.mk.inj h
    exact ⟨[], [], rfl, Wrote.nil logger outputDir _, rfl, .inl ⟨rfl, rfl⟩⟩
  | cons file files ih =>
    rw [writeEach, Script.perform] at h
    rw [writeEach, Script.writes]
    cases hwrite : desk.disk.write (plan outputDir file).path (Text.encode file.text) with
    | error fault =>
      rw [hwrite] at h
      obtain ⟨rfl, rfl⟩ := Prod.mk.inj h
      exact ⟨[], file :: files, rfl, Wrote.nil logger outputDir _, rfl,
        .inr ⟨file, files, fault, rfl, hwrite, rfl⟩⟩
    | ok disk =>
      obtain ⟨place, hplace, rfl⟩ := Disk.write_eq_ok_iff.1 hwrite
      rw [hwrite] at h
      simp only [Desk.change, Script.perform_bind, Script.perform_pure] at h
      simp only [Desk.change, Script.writes_bind, Script.writes_pure, Logger.writes_note,
        List.nil_append, List.append_nil]
      rcases hrest : (writeEach logger outputDir files).perform _ with ⟨outcome, rest⟩
      rw [hrest] at h
      obtain ⟨rfl, rfl⟩ := Prod.mk.inj h
      obtain ⟨front, back, rfl, hwrote, hwrites, hcases⟩ := ih hrest
      have hnode := (Disk.filePlace?_eq_some_iff.1 hplace).2.2
      have hset := Disk.sameDirectories_set hnode (Text.encode file.text)
      have hspares : ∀ other, logger.Spares .debug desk.disk other =
          logger.Spares .debug (desk.disk.set place (.file (Text.encode file.text))) other := by
        intro other
        unfold Logger.Spares
        rw [Logger.place?_congr hset]
      refine ⟨file :: front, back, rfl, hwrote.cons hplace
        (Logger.sameDirectories_note ⟨_, _, _⟩ _ _) (fun other => ?_) fun other hquiet => ?_, ?_, ?_⟩
      · rw [hspares]
        exact Logger.grows_note ⟨_, _, _⟩ _ _ other
      · rw [hspares] at hquiet
        exact Logger.node?_note_of_spares ⟨_, _, _⟩ _ _ hquiet
      · rw [hwrites]
        rfl
      · rcases hcases with ⟨hback, rfl⟩ | ⟨failed, others, fault, hback, hrefused, rfl⟩
        · exact .inl ⟨hback, rfl⟩
        · exact .inr ⟨failed, others, fault, hback, hrefused, rfl⟩

theorem sameDirectories_writeEach {result : Except GenError (List OutputFile)} {written : Desk}
    (h : (writeEach logger outputDir files).perform desk = (result, written)) :
    SameDirectories desk.disk written.disk := by
  obtain ⟨front, back, -, hwrote, -⟩ := writeEach_cases h
  exact hwrote.same

/-- **What a delivery does to the disk:** it makes the directory and those above it, then it writes
the classes at the front of the list. -/
structure Delivers (logger : Logger) (outputDir : Text) (files front : List GeneratedFile)
    (before made after : Disk) : Prop where
  adds : AddsDirectoriesAt (Path.ancestors outputDir) before made
  initial : front <+: files
  wrote : Wrote logger outputDir front made after

/-- **How a delivery ends** that has written the classes at the front of the list. -/
inductive Ends (outputDir : Text) (files front : List GeneratedFile) (desk written : Desk) :
    Except GenError (List OutputFile) → Prop where
  /-- All classes are written. If there are any, the directory is there. -/
  | all (hall : front = files)
      (hdir : files = [] ∨ outputDir = [] ∨ written.disk.isDirectory outputDir = true) :
      Ends outputDir files front desk written (.ok (files.map (plan outputDir)))
  /-- The directory is there, and the class behind them cannot be written. -/
  | refused (file : GeneratedFile) (rest : List GeneratedFile) (fault : Fault)
      (hnext : front ++ file :: rest = files)
      (hdir : outputDir = [] ∨ written.disk.isDirectory outputDir = true)
      (hrefused : written.disk.write (plan outputDir file).path (Text.encode file.text) =
        .error fault) :
      Ends outputDir files front desk written
        (.error (.unwritable (plan outputDir file).path fault))
  /-- There are classes, and the directory cannot be made. -/
  | noDirectory (fault : Fault) (hfiles : files ≠ []) (hnone : front = [])
      (hrefused : ((Script.makeDirectories outputDir).perform desk).1 = .error fault) :
      Ends outputDir files front desk written (.error (.unwritable outputDir fault))

/-- What a delivery reports if it succeeds, and the kind of its error if it fails. -/
theorem Ends.cases {front : List GeneratedFile} {result : Except GenError (List OutputFile)}
    {written : Desk} (h : Ends outputDir files front desk written result) :
    front = files ∧ result = .ok (files.map (plan outputDir)) ∨
      ∃ path fault, result = .error (.unwritable path fault) := by
  cases h with
  | all hall => exact .inl ⟨hall, rfl⟩
  | refused file rest fault => exact .inr ⟨_, fault, rfl⟩
  | noDirectory fault => exact .inr ⟨_, fault, rfl⟩

/-- **A delivery writes all classes, or stops** where a class or the directory cannot be
written. -/
theorem writeFiles_cases {result : Except GenError (List OutputFile)} {written : Desk}
    (h : (writeFiles logger outputDir files).perform desk = (result, written)) :
    ∃ front made, Delivers logger outputDir files front desk.disk made written.disk ∧
      (writeFiles logger outputDir files).writes desk = front.map (writeOf outputDir) ∧
      Ends outputDir files front desk written result := by
  unfold writeFiles at h ⊢
  by_cases hnil : files = []
  · subst hnil
    obtain ⟨rfl, rfl⟩ := Prod.mk.inj h
    exact ⟨[], desk.disk, ⟨.refl _ _, List.prefix_rfl, Wrote.nil logger outputDir _⟩, rfl,
      .all rfl (.inl rfl)⟩
  · rw [if_neg (by simpa using hnil)] at h ⊢
    have hmakes := Script.makes_makeDirectories outputDir
    have hadds := hmakes.adds desk
    rw [Script.perform_bind] at h
    rw [Script.writes_bind, hmakes.writes_eq_nil, List.nil_append]
    cases hmade : ((Script.makeDirectories outputDir).perform desk).1 with
    | error fault =>
      rw [hmade] at h
      obtain ⟨rfl, rfl⟩ := Prod.mk.inj h
      exact ⟨[], _, ⟨hadds, List.nil_prefix, Wrote.nil logger outputDir _⟩, rfl,
        .noDirectory fault hnil rfl hmade⟩
    | ok made =>
      rw [hmade] at h
      obtain ⟨front, back, rfl, hwrote, hwrites, hcases⟩ := writeEach_cases h
      refine ⟨front, _, ⟨hadds, List.prefix_append front back, hwrote⟩, hwrites, ?_⟩
      have hdir := (Script.isDirectory_of_makeDirectories hmade).imp_right hwrote.same.isDirectory
      rcases hcases with ⟨rfl, rfl⟩ | ⟨file, rest, fault, rfl, hrefused, rfl⟩
      · exact .all (List.append_nil front).symm (.inr hdir)
      · exact .refused file rest fault rfl hdir hrefused

theorem wrote_writeFiles {outputs : List OutputFile} {written : Desk}
    (h : (writeFiles logger outputDir files).perform desk = (.ok outputs, written)) :
    outputs = files.map (plan outputDir) ∧
      ∃ before, Wrote logger outputDir files before written.disk := by
  obtain ⟨front, made, hdelivers, -, hends⟩ := writeFiles_cases h
  cases hends with
  | all hall => exact ⟨rfl, made, hall ▸ hdelivers.wrote⟩

/-! ## When every class is on the disk -/

/-- The disk at the place of a class once the end of a run is noted: the last class that goes
there, and nothing behind it exactly if no log line goes there. -/
theorem Wrote.node?_conclude (config : RunConfig) {written : Desk}
    (h : Wrote logger outputDir files before written.disk)
    (outputs : List OutputFile) (report : Report) (hfile : file ∈ files)
    (hplace : placeOf before outputDir file = some place) :
    ∃ last ∈ files, placeOf before outputDir last = some place ∧
      ∃ more, ((conclude logger config outputs report).perform written).2.disk.node? place =
          some (.file (Text.encode last.text ++ more)) ∧
        (more = [] ↔ logger.Spares .info before place) := by
  obtain ⟨front, last, back, rfl, hlast, hback⟩ :=
    exists_last (p := fun file => placeOf before outputDir file = some place) ⟨file, hfile, hplace⟩
  obtain ⟨more, hnode, hquiet⟩ := h.last front last back place rfl hlast hback
  refine ⟨last, by simp, hlast, ?_⟩
  rw [conclude, Logger.node?_note, Logger.place?_congr h.same]
  by_cases hlog : logger.shows .info = true ∧ logger.place? before = some place
  · -- the end of the run is noted behind the class, and a line is never empty
    rw [if_pos hlog, Disk.bytesAt, hnode]
    refine ⟨_, by rw [List.append_assoc], ?_⟩
    constructor
    · intro hnil
      have hline := (List.append_eq_nil_iff.1 hnil).2
      exact absurd hline (Text.encode_ne_nil (Event.line_ne_nil _ _ _))
    · exact fun hspares => absurd hlog.2 (hspares hlog.1)
  · rw [if_neg hlog]
    have hspares : logger.Spares .info before place := fun hshows hat => hlog ⟨hshows, hat⟩
    refine ⟨more, hnode, fun _ => hspares, fun _ => hquiet fun hshows => hspares ?_⟩
    exact Logger.shows_of_rank_le (by decide) hshows

/-- **Every class is on the disk** after it is written and the end of the run is noted exactly if
the classes that go to one place have one text and no log line goes there. -/
theorem reads_iff (config : RunConfig) {written : Desk}
    (h : Wrote logger outputDir files before written.disk) (outputs : List OutputFile)
    (report : Report) :
    let after := ((conclude logger config outputs report).perform written).2.disk
    (∀ file ∈ files,
        after.read (plan outputDir file).path = .ok (Text.encode file.text)) ↔
      (∀ first ∈ files, ∀ second ∈ files,
        placeOf after outputDir first = placeOf after outputDir second →
          first.text = second.text) ∧
      (logger.shows .info = true →
        ∀ file ∈ files, placeOf after outputDir file ≠ logger.place? after) := by
  intro after
  have hsame : SameDirectories before after :=
    h.same.trans (Logger.sameDirectories_note _ _ _)
  have hread : ∀ file place, placeOf before outputDir file = some place →
      ∀ bytes, after.read (plan outputDir file).path = .ok bytes ↔
        after.node? place = some (.file bytes) := fun file place hplace bytes =>
    read_eq_ok_iff_node? ((placeOf_congr hsame outputDir file).trans hplace)
  simp only [placeOf_congr hsame, Logger.place?_congr hsame]
  constructor
  · intro hall
    have hnode : ∀ file ∈ files, ∀ place, placeOf before outputDir file = some place →
        after.node? place = some (.file (Text.encode file.text)) := fun file hfile place hplace =>
      (hread file place hplace _).1 (hall file hfile)
    constructor
    · intro first hfirst second hsecond heq
      obtain ⟨place, hplace⟩ := h.placed first hfirst
      have hone := hnode first hfirst place hplace
      rw [hnode second hsecond place (heq ▸ hplace)] at hone
      exact Text.encode_injective (by simpa using hone.symm)
    · intro hshows file hfile heq
      obtain ⟨place, hplace⟩ := h.placed file hfile
      obtain ⟨last, hmem, hlast, more, hmore, hspares⟩ :=
        h.node?_conclude config outputs report hfile hplace
      have hnil : more = [] := by
        rw [hnode last hmem place hlast] at hmore
        simpa using hmore
      exact hspares.1 hnil hshows (heq.symm.trans hplace)
  · rintro ⟨htexts, hlog⟩ file hfile
    obtain ⟨place, hplace⟩ := h.placed file hfile
    obtain ⟨last, hmem, hlast, more, hmore, hspares⟩ :=
      h.node?_conclude config outputs report hfile hplace
    have hnil := hspares.2 fun hshows hat => hlog hshows file hfile (hplace.trans hat.symm)
    rw [hnil, List.append_nil, htexts last hmem file hfile (hlast.trans hplace.symm)] at hmore
    exact (hread file place hplace _).2 hmore

/-! ## When two classes go to one place -/

/-- The file of a class has a name that leads down. -/
theorem fileName_leads_down (file : GeneratedFile) :
    file.fileName ≠ [] ∧ file.fileName ≠ Path.dot ∧ file.fileName ≠ Path.dotDot := by
  have hlength : 5 ≤ file.fileName.length := by
    rw [GeneratedFile.fileName, List.length_append]
    exact Nat.le_add_left 5 _
  refine ⟨?_, ?_, ?_⟩ <;> intro heq <;> rw [heq] at hlength <;> revert hlength <;> decide

/-- The file of a class stands in the output directory, under its own name, if there is no slash
in the name. -/
theorem enter_of_placeOf {disk : Disk} (hslash : '/' ∉ file.className)
    (hplace : placeOf disk outputDir file = some place) :
    ∃ above, disk.enter (Path.parts outputDir)
        (if Path.isAbsolute outputDir then [] else Disk.home) = .ok above ∧
      above ++ [file.fileName] = place := by
  obtain ⟨hne, hdot, hdotDot⟩ := fileName_leads_down file
  have hname : '/' ∉ file.fileName := by
    intro hmem
    exact (List.mem_append.1 hmem).elim hslash (by decide)
  have h := (Disk.filePlace?_eq_some_iff.1 hplace).1
  rw [plan, Disk.locate_join hname hne, map_eq_ok_iff] at h
  obtain ⟨above, habove, hstep⟩ := h
  rw [Disk.step, if_neg hdot, if_neg hdotDot] at hstep
  exact ⟨above, habove, hstep⟩

/-- The files of two classes are at one place exactly if the classes have one name, unless there
is a slash in a name. -/
theorem placeOf_eq_iff_className {disk : Disk} {first second : GeneratedFile}
    (hfirst : '/' ∉ first.className) (hsecond : '/' ∉ second.className)
    (hplaced : placeOf disk outputDir first = some place) :
    placeOf disk outputDir first = placeOf disk outputDir second ↔
      first.className = second.className := by
  constructor
  · intro heq
    obtain ⟨above, habove, rfl⟩ := enter_of_placeOf hfirst hplaced
    obtain ⟨other, hother, hplace⟩ := enter_of_placeOf hsecond (heq ▸ hplaced)
    obtain rfl := Except.ok.inj (habove.symm.trans hother)
    have hfile := List.cons.inj (List.append_cancel_left hplace)
    exact (List.append_cancel_right hfile.1).symm
  · intro heq
    rw [placeOf, placeOf, plan, plan, GeneratedFile.fileName, heq, ← GeneratedFile.fileName]

theorem slash_not_mem_of_outcome {request : Request} {entry : Entry} {file : GeneratedFile}
    (h : request.outcome entry = .ok file) (hslash : '/' ∉ entry.className) :
    '/' ∉ file.className := by
  have hsuffix : '/' ∉ request.mode.suffix := by cases request.mode <;> decide
  rw [Request.className_of_outcome h]
  exact Mode.not_mem_classIdentifier hsuffix hslash

/-- **The classes of two types go to one place** in interfaces only, when the name of one type is
that of the other with `Base` at its end. -/
theorem placeOf_eq_iff {request : Request} {first second : Entry}
    {firstFile secondFile : GeneratedFile} {disk : Disk}
    (hfirst : first ∈ request.table.targets) (hsecond : second ∈ request.table.targets)
    (hne : first ≠ second) (hfirstFile : request.outcome first = .ok firstFile)
    (hsecondFile : request.outcome second = .ok secondFile) (hslash : '/' ∉ first.className)
    (hslash' : '/' ∉ second.className) (hplaced : placeOf disk outputDir firstFile = some place) :
    placeOf disk outputDir firstFile = placeOf disk outputDir secondFile ↔
      request.mode = .interface ∧ (Mode.AddsBase first.className second.className ∨
        Mode.AddsBase second.className first.className) := by
  have hnames : first.className ≠ second.className := fun heq =>
    hne (Table.eq_of_className_eq (Table.mem_entries_of_mem_targets hfirst)
      (Table.mem_entries_of_mem_targets hsecond) heq)
  rw [placeOf_eq_iff_className (slash_not_mem_of_outcome hfirstFile hslash)
    (slash_not_mem_of_outcome hsecondFile hslash') hplaced,
    Request.className_of_outcome hfirstFile, Request.className_of_outcome hsecondFile]
  exact Mode.classIdentifier_eq_iff hnames

/-! ## The disk after a run -/

theorem mem_files_of_outcome {request : Request} {entry : Entry}
    (hentry : entry ∈ request.table.targets) (h : request.outcome entry = .ok file) :
    file ∈ request.outcomes.filterMap Outcome.file? := by
  rw [List.mem_filterMap]
  refine ⟨(entry, request.outcome entry), List.mem_map_of_mem hentry, ?_⟩
  rw [Outcome.file?, h]

/-- **Classes on the disk.** A run that succeeds, and is not dry, reports the class of every
target that has one, with the length of its text. Each of them is on the disk as it was derived
exactly if no two with different texts go to one place and no log line goes to the place of one.
The classes of two types, without a slash in their names, go to one place in interfaces only,
when one name is the other with `Base` at its end. -/
theorem classes_on_disk {config : RunConfig} {report : RunReport} {last : Desk}
    (hwet : config.dryRun = false) (hrun : (run logger config).perform desk = (.ok report, last)) :
    ∃ catalog fileName text ready,
      (prepare (spanned logger config) config).perform desk =
        (.ok (catalog, fileName, text), ready) ∧
      let request := requestOf config catalog fileName text
      let files := request.outcomes.filterMap Outcome.file?
      let placed := placeOf last.disk config.outputDir
      report.files = files.map (plan config.outputDir) ∧
      (∀ file ∈ files, (plan config.outputDir file).bytes = (Text.encode file.text).length) ∧
      ((∀ file ∈ files, last.disk.read (plan config.outputDir file).path =
          .ok (Text.encode file.text)) ↔
        (∀ first ∈ files, ∀ second ∈ files, placed first = placed second →
          first.text = second.text) ∧
        (logger.shows .info = true → ∀ file ∈ files, placed file ≠ logger.place? last.disk)) ∧
      ∀ first ∈ request.table.targets, ∀ second ∈ request.table.targets, first ≠ second →
        ∀ firstFile secondFile, request.outcome first = .ok firstFile →
          request.outcome second = .ok secondFile →
          '/' ∉ first.className → '/' ∉ second.className →
          (placed firstFile = placed secondFile ↔ request.mode = .interface ∧
            (Mode.AddsBase first.className second.className ∨
              Mode.AddsBase second.className first.className)) := by
  rw [perform_run] at hrun
  split at hrun
  · simp at hrun
  rename_i catalog fileName text ready hprepare
  refine ⟨catalog, fileName, text, ready, hprepare, ?_⟩
  intro request files placed
  rw [perform_runWith] at hrun
  dsimp only at hrun
  split at hrun
  · simp at hrun
  rename_i generated hgenerated
  have hfiles : generated.files = files := Report.files_of_ofOutcomes hgenerated
  split at hrun
  · simp at hrun
  rename_i outputs written hdeliver
  rw [deliver, hwet, if_neg (by decide), hfiles] at hdeliver
  obtain ⟨houtputs, before, hwrote⟩ := wrote_writeFiles hdeliver
  obtain ⟨hreport, rfl⟩ := Prod.mk.inj hrun
  refine ⟨?_, fun file _ => (Text.length_encode file.text).symm, ?_, ?_⟩
  · rw [← Except.ok.inj hreport, ← houtputs]
  · have hreads := reads_iff config hwrote outputs generated
    simp only [shows_spanned, place?_spanned] at hreads
    exact hreads
  · intro first hfirst second hsecond hne firstFile secondFile hone htwo hslash hslash'
    obtain ⟨place, hplace⟩ := hwrote.placed firstFile (mem_files_of_outcome hfirst hone)
    have hsame : SameDirectories before
        ((conclude (spanned logger config) config outputs generated).perform written).2.disk :=
      hwrote.same.trans (Logger.sameDirectories_note _ _ _)
    exact placeOf_eq_iff hfirst hsecond hne hone htwo hslash hslash'
      ((placeOf_congr hsame _ _).trans hplace)

/-- A type of a catalog, in TOML. -/
def typeText (name storage boxed primitive : Text) : Text :=
  "[[types]]\nclass_name='".toList ++ name ++ "'\nstorage_kind='".toList ++ storage ++
    "'\nboxed_name='".toList ++ boxed ++ "'\nprimitive_name='".toList ++ primitive ++
    "'\naccessor='get'\nconversion='of(o)'\n".toList ++
    "format_spec='%e'\nsentinel='NaN'\n".toList

/-- A desk with an interface and a catalog of two types whose names differ by `Base` only. -/
def pairDesk : Desk :=
  let toml := "default='D'\n".toList ++
    typeText "D".toList "FLOAT64".toList "Double".toList "double".toList ++
    typeText "F".toList "FLOAT32".toList "Float".toList "float".toList ++
    typeText "FBase".toList "FLOAT16".toList "Half".toList "half".toList
  .ofDisk ⟨[(Disk.home, .directory),
    (Disk.home ++ ["D.java".toList], .file (Text.encode "interface D { double v; }".toList)),
    (Disk.home ++ ["pair.toml".toList], .file (Text.encode toml))]⟩

/-- A run for the classes of that catalog. -/
def pairConfig : RunConfig where
  master := "D.java".toList
  catalog := some "pair.toml".toList
  outputDir := "out".toList
  scope := .global
  required := some .empty
  stripBaseClass := false
  policy := .keepGoing
  dryRun := false
  header := false

theorem classes_on_disk_pair :
    ∃ report last catalog fileName text ready, pairConfig.dryRun = false ∧
      (run .silent pairConfig).perform pairDesk = (.ok report, last) ∧
      (prepare (spanned .silent pairConfig) pairConfig).perform pairDesk =
        (.ok (catalog, fileName, text), ready) ∧
      report.files =
        [⟨"F".toList, "out/F.java".toList, 24⟩, ⟨"F".toList, "out/F.java".toList, 23⟩] ∧
      ¬ ∀ file ∈ (requestOf pairConfig catalog fileName text).outcomes.filterMap Outcome.file?,
        last.disk.read (plan pairConfig.outputDir file).path = .ok (Text.encode file.text) := by
  have hfiles : ((run .silent pairConfig).perform pairDesk).1.toOption.map RunReport.files =
      some [⟨"F".toList, "out/F.java".toList, 24⟩, ⟨"F".toList, "out/F.java".toList, 23⟩] := by
    decide +kernel
  rcases hrun : (run .silent pairConfig).perform pairDesk with ⟨error | report, last⟩
  · rw [hrun] at hfiles
    simp [Except.toOption] at hfiles
  rw [hrun] at hfiles
  have hlist := Option.some.inj hfiles
  obtain ⟨catalog, fileName, text, ready, hprepare, hreported, hbytes, hreads, -⟩ :=
    classes_on_disk rfl hrun
  refine ⟨report, last, catalog, fileName, text, ready, rfl, rfl, hprepare, hlist, fun hall => ?_⟩
  -- two classes have one path, and texts of different lengths
  rw [hlist] at hreported
  obtain ⟨first, others, hclasses, hfirst, hothers⟩ := List.map_eq_cons_iff.1 hreported.symm
  obtain ⟨second, rest, rfl, hsecond, -⟩ := List.map_eq_cons_iff.1 hothers
  have hpath :
      (plan pairConfig.outputDir first).path = (plan pairConfig.outputDir second).path := by
    rw [hfirst, hsecond]
  have htext := (hreads.1 hall).1 first (by rw [hclasses]; simp) second (by rw [hclasses]; simp)
    (by rw [placeOf, placeOf, hpath])
  have hlength :
      (plan pairConfig.outputDir first).bytes = (plan pairConfig.outputDir second).bytes :=
    congrArg Text.byteLength htext
  rw [hfirst, hsecond] at hlength
  simp at hlength

end Run

end Siblings
