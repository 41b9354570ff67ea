import Mathlib.Data.List.Nodup
import Siblings.Generation
import Siblings.Proofs.Except
import Siblings.Proofs.Naming

/-!
# Reports

A generation deals the targets of its table out, one after the other: a target with a class goes
to the files, a target with an error to the failures (`Dealt`). With `keepGoing` the report is
what was dealt. With `failFast` the first target that goes to the failures ends the generation.

* `outcome_eq_ok_iff`, `outcome_eq_error_iff`: the class of one target, or its error.
* `dealt_iff`: what is dealt are the classes and the failures of the outcomes, in order.
* `mapM_of_dealt`: **with `failFast` only the first of the failures counts.**
* `policies_agree`: the two policies on one request.
* `AccountsFor`: **what a report says of the targets of its request.**
* `targets_independent`: the outcome of a target does not depend on the other targets.
-/

namespace Siblings

namespace Request

variable {request : Request} {entry : Entry} {entries : List Entry} {file : GeneratedFile}
  {files : List GeneratedFile} {error : GenError} {failures : List TargetFailure}
  {report : Report}

/-- The request under another policy. -/
def under (request : Request) (policy : Policy) : Request := { request with policy }

/-- The request for another table. -/
def onTable (request : Request) (table : Table) : Request := { request with table }

/-! ## One target -/

/-- **A target has a class** when its class is not that of the master and its derivation
succeeds. -/
theorem outcome_eq_ok_iff :
    request.outcome entry = .ok file ↔
      request.targetClass entry ≠ request.defaultClass ∧
        (request.derivation entry).run = .ok file.text ∧
        file.className = request.targetClass entry := by
  unfold outcome
  by_cases hself : request.targetClass entry = request.defaultClass
  · simp [hself]
  · rw [if_neg hself, map_eq_ok_iff]
    constructor
    · rintro ⟨text, hrun, rfl⟩
      exact ⟨hself, hrun, rfl⟩
    · rintro ⟨-, hrun, hname⟩
      exact ⟨file.text, hrun, by rw [← hname]⟩

/-- **A target has an error** when its class is that of the master, or else when its derivation
fails. -/
theorem outcome_eq_error_iff :
    request.outcome entry = .error error ↔
      request.targetClass entry = request.defaultClass ∧
        error = .selfGeneration (request.targetClass entry) ∨
      request.targetClass entry ≠ request.defaultClass ∧
        (request.derivation entry).run = .error error := by
  unfold outcome
  by_cases hself : request.targetClass entry = request.defaultClass
  · simp [hself, eq_comm]
  · simp [hself, map_eq_error_iff]

theorem className_of_outcome (h : request.outcome entry = .ok file) :
    file.className = request.targetClass entry := (outcome_eq_ok_iff.1 h).2.2

/-! ## Dealing out -/

/-- The outcome of some entries, in order. -/
def outcomesOf (request : Request) (entries : List Entry) : List Outcome :=
  entries.map fun entry => (entry, request.outcome entry)

/-- **Entries dealt out by their outcome.** Each entry, in order, is the next of the files with
its class, or the next of the failures with its error, and not both. -/
inductive Dealt (request : Request) :
    List Entry → List GeneratedFile → List TargetFailure → Prop where
  | nil : Dealt request [] [] []
  | file (entry : Entry) (file : GeneratedFile) {entries : List Entry}
      {files : List GeneratedFile} {failures : List TargetFailure}
      (h : request.outcome entry = .ok file) (rest : Dealt request entries files failures) :
      Dealt request (entry :: entries) (file :: files) failures
  | failure (entry : Entry) (error : GenError) {entries : List Entry}
      {files : List GeneratedFile} {failures : List TargetFailure}
      (h : request.outcome entry = .error error) (rest : Dealt request entries files failures) :
      Dealt request (entry :: entries) files (⟨entry.className, error⟩ :: failures)

/-- An entry with a class adds it to the files of the outcomes, and no failure. -/
theorem filterMap_outcomesOf_ok (h : request.outcome entry = .ok file) (entries : List Entry) :
    (request.outcomesOf (entry :: entries)).filterMap Outcome.file? =
        file :: (request.outcomesOf entries).filterMap Outcome.file? ∧
      (request.outcomesOf (entry :: entries)).filterMap Outcome.failure? =
        (request.outcomesOf entries).filterMap Outcome.failure? := by
  have hfile : Outcome.file? (entry, request.outcome entry) = some file := by
    rw [Outcome.file?, h]
  have hfailure : Outcome.failure? (entry, request.outcome entry) = none := by
    rw [Outcome.failure?, h]
  exact ⟨List.filterMap_cons_some hfile, List.filterMap_cons_none hfailure⟩

/-- An entry with an error adds it to the failures of the outcomes, and no file. -/
theorem filterMap_outcomesOf_error (h : request.outcome entry = .error error)
    (entries : List Entry) :
    (request.outcomesOf (entry :: entries)).filterMap Outcome.file? =
        (request.outcomesOf entries).filterMap Outcome.file? ∧
      (request.outcomesOf (entry :: entries)).filterMap Outcome.failure? =
        ⟨entry.className, error⟩ :: (request.outcomesOf entries).filterMap Outcome.failure? := by
  have hfile : Outcome.file? (entry, request.outcome entry) = none := by
    rw [Outcome.file?, h]
  have hfailure : Outcome.failure? (entry, request.outcome entry) =
      some ⟨entry.className, error⟩ := by
    rw [Outcome.failure?, h]
  exact ⟨List.filterMap_cons_none hfile, List.filterMap_cons_some hfailure⟩

/-- **What is dealt** are the classes and the failures of the outcomes. -/
theorem dealt_iff :
    request.Dealt entries files failures ↔
      files = (request.outcomesOf entries).filterMap Outcome.file? ∧
        failures = (request.outcomesOf entries).filterMap Outcome.failure? := by
  constructor
  · intro h
    induction h with
    | nil => exact ⟨rfl, rfl⟩
    | @file entry file entries _ _ h rest ih =>
      obtain ⟨hfile, hfailure⟩ := filterMap_outcomesOf_ok h entries
      rw [hfile, hfailure, ← ih.1, ← ih.2]
      exact ⟨rfl, rfl⟩
    | @failure entry error entries _ _ h rest ih =>
      obtain ⟨hfile, hfailure⟩ := filterMap_outcomesOf_error h entries
      rw [hfile, hfailure, ← ih.1, ← ih.2]
      exact ⟨rfl, rfl⟩
  · rintro ⟨rfl, rfl⟩
    induction entries with
    | nil => exact .nil
    | cons entry entries ih =>
      cases h : request.outcome entry with
      | ok file =>
        obtain ⟨hfile, hfailure⟩ := filterMap_outcomesOf_ok h entries
        rw [hfile, hfailure]
        exact .file entry file h ih
      | error error =>
        obtain ⟨hfile, hfailure⟩ := filterMap_outcomesOf_error h entries
        rw [hfile, hfailure]
        exact .failure entry error h ih

/-- The files that are dealt are the classes of the entries that have one. -/
theorem Dealt.mem_files (h : request.Dealt entries files failures) :
    file ∈ files ↔ ∃ entry ∈ entries, request.outcome entry = .ok file := by
  induction h with
  | nil => simp
  | file entry other h rest ih => simp [ih, h, eq_comm]
  | failure entry error h rest ih => simp [ih, h]

/-- The failures that are dealt are the errors of the entries that have one. -/
theorem Dealt.mem_failures (h : request.Dealt entries files failures) {failure : TargetFailure} :
    failure ∈ failures ↔ ∃ entry ∈ entries,
      request.outcome entry = .error failure.error ∧ failure.className = entry.className := by
  induction h with
  | nil => simp
  | file entry file h rest ih => simp [ih, h]
  | failure entry error h rest ih =>
    have hfirst : failure = ⟨entry.className, error⟩ ↔
        request.outcome entry = .error failure.error ∧ failure.className = entry.className := by
      rw [h, Except.error.injEq, TargetFailure.mk.injEq, and_comm, eq_comm (a := error)]
    simp [ih, hfirst]

/-- The class of an entry that is dealt is among the files, if there is one. -/
theorem Dealt.exists_mem_files_iff (h : request.Dealt entries files failures)
    (hentry : entry ∈ entries) :
    (∃ file ∈ files, request.outcome entry = .ok file) ↔
      ∃ file, request.outcome entry = .ok file := by
  constructor
  · rintro ⟨file, -, hfile⟩
    exact ⟨file, hfile⟩
  · rintro ⟨file, hfile⟩
    exact ⟨file, h.mem_files.2 ⟨entry, hentry, hfile⟩, hfile⟩

/-- **There is no failure** exactly if every entry has a class. -/
theorem Dealt.failures_eq_nil_iff (h : request.Dealt entries files failures) :
    failures = [] ↔ ∀ entry ∈ entries, ∃ file, request.outcome entry = .ok file := by
  induction h with
  | nil => simp
  | file entry file h rest ih => simp [ih, h]
  | failure entry error h rest ih => simp [h]

/-- **With `failFast` only the first of the failures counts:** there is none, and the result is
all the files, or it is the error. -/
theorem mapM_of_dealt (h : request.Dealt entries files failures) :
    (request.outcomesOf entries).mapM Prod.snd =
      match failures with
      | [] => .ok files
      | failure :: _ => .error failure.error := by
  induction h with
  | nil => rfl
  | file entry file h rest ih =>
    -- a class in front is put in front of the files, and moves no failure
    rw [outcomesOf, List.map_cons, List.mapM_cons, ← outcomesOf, ih, h]
    split <;> rfl
  | failure entry error h rest ih =>
    rw [outcomesOf, List.map_cons, List.mapM_cons, h]
    rfl

/-! ## The two policies -/

theorem generate_keepGoing_iff :
    (request.under .keepGoing).generate = .ok report ↔
      request.Dealt request.table.targets report.files report.failures := by
  rw [dealt_iff]
  have hgenerate : (request.under .keepGoing).generate =
      .ok ⟨(request.outcomesOf request.table.targets).filterMap Outcome.file?,
        (request.outcomesOf request.table.targets).filterMap Outcome.failure?⟩ := rfl
  rw [hgenerate, Except.ok.injEq]
  constructor
  · rintro rfl
    exact ⟨rfl, rfl⟩
  · rintro ⟨hfiles, hfailures⟩
    rw [← hfiles, ← hfailures]

/-- A request that keeps going has a report. -/
theorem exists_generate_keepGoing (request : Request) :
    ∃ report, (request.under .keepGoing).generate = .ok report := ⟨_, rfl⟩

theorem generate_failFast
    (h : request.Dealt request.table.targets report.files report.failures) :
    (request.under .failFast).generate =
      match report.failures with
      | [] => .ok report
      | failure :: _ => .error failure.error := by
  have hgenerate : (request.under .failFast).generate = Except.map (fun files => ⟨files, []⟩)
      ((request.outcomesOf request.table.targets).mapM Prod.snd) := rfl
  rw [hgenerate, mapM_of_dealt h]
  obtain ⟨files, failures⟩ := report
  cases failures <;> rfl

/-- **The policies agree.** A request that keeps going has a report, which deals its targets out.
The request that fails fast has a report exactly if that one has no failure, and then the same
one; else it ends with the error of the first failure there. -/
theorem policies_agree (request : Request) :
    ∃ report, (request.under .keepGoing).generate = .ok report ∧
      request.Dealt request.table.targets report.files report.failures ∧
      (∀ fast, (request.under .failFast).generate = .ok fast ↔
        report.failures = [] ∧ fast = report) ∧
      ∀ error, (request.under .failFast).generate = .error error ↔
        ∃ failure others, report.failures = failure :: others ∧ failure.error = error := by
  obtain ⟨report, hreport⟩ := exists_generate_keepGoing request
  have hdealt := generate_keepGoing_iff.1 hreport
  refine ⟨report, hreport, hdealt, fun fast => ?_, fun error => ?_⟩
  all_goals
    rw [generate_failFast hdealt]
    cases report.failures with
    | nil => simp [eq_comm]
    | cons failure others => simp

/-! ## One target and the others -/

/-- **The outcome of a target** depends on the settings and on the default type. The rest of the
table does not matter. -/
theorem outcome_onTable {table : Table} (h : table.default = request.table.default) :
    (request.onTable table).outcome = request.outcome := by
  funext entry
  have hclass : (request.onTable table).defaultClass = request.defaultClass := by
    rw [defaultClass, defaultClass, ← h]
    rfl
  have hderivation : (request.onTable table).derivation entry = request.derivation entry := by
    rw [derivation, derivation, hclass, ← h]
    rfl
  rw [outcome, outcome, hclass, hderivation]
  rfl

theorem dealt_onTable {table : Table} (h : table.default = request.table.default) :
    (request.onTable table).Dealt entries files failures ↔
      request.Dealt entries files failures := by
  have houtcomes : (request.onTable table).outcomesOf entries = request.outcomesOf entries := by
    rw [outcomesOf, outcomesOf, outcome_onTable h]
  rw [dealt_iff, dealt_iff, houtcomes]

section Other

variable {others : List Entry} {otherFiles : List GeneratedFile}
  {otherFailures : List TargetFailure}

/-- Entries in another order are dealt the same, in another order. -/
theorem Dealt.perm (h : request.Dealt entries files failures)
    (h' : request.Dealt others otherFiles otherFailures) (hperm : others.Perm entries) :
    otherFiles.Perm files ∧ otherFailures.Perm failures := by
  obtain ⟨rfl, rfl⟩ := dealt_iff.1 h
  obtain ⟨rfl, rfl⟩ := dealt_iff.1 h'
  have houtcomes : (request.outcomesOf others).Perm (request.outcomesOf entries) := hperm.map _
  exact ⟨houtcomes.filterMap _, houtcomes.filterMap _⟩

/-- Entries that are left out take what was dealt for them, and nothing else. -/
theorem Dealt.sublist (h : request.Dealt entries files failures)
    (h' : request.Dealt others otherFiles otherFailures) (hsub : others.Sublist entries) :
    otherFiles.Sublist files ∧ otherFailures.Sublist failures := by
  obtain ⟨rfl, rfl⟩ := dealt_iff.1 h
  obtain ⟨rfl, rfl⟩ := dealt_iff.1 h'
  have houtcomes : (request.outcomesOf others).Sublist (request.outcomesOf entries) := hsub.map _
  exact ⟨houtcomes.filterMap _, houtcomes.filterMap _⟩

end Other

/-- **A report accounts for the targets of its request.** -/
structure AccountsFor (request : Request) (report : Report) : Prop where
  /-- Each target is dealt out, in the order of the table. -/
  dealt : request.Dealt request.table.targets report.files report.failures
  /-- A target has its class among the files exactly if it is not among the failures. -/
  once : ∀ entry ∈ request.table.targets,
    (∃ file ∈ report.files, request.outcome entry = .ok file) ↔
      ¬ ∃ failure ∈ report.failures, failure.className = entry.className
  /-- A file is that of a target, and is called as the mode says. -/
  named : ∀ file ∈ report.files, ∃ entry ∈ request.table.targets,
    request.outcome entry = .ok file ∧
      file.className = request.mode.classIdentifier entry.className ∧
      file.fileName = request.mode.fileName entry.className
  /-- No file is called as the master's class. -/
  noDefaultFile : ∀ file ∈ report.files, file.className ≠ request.defaultClass ∧
    file.fileName ≠ request.mode.fileName request.table.default.className
  /-- The default type is not among the failures. -/
  noDefaultFailure : ∀ failure ∈ report.failures,
    failure.className ≠ request.table.default.className

theorem fileName_of_outcome (h : request.outcome entry = .ok file) :
    file.fileName = request.mode.fileName entry.className := by
  rw [GeneratedFile.fileName, className_of_outcome h]
  rfl

theorem accountsFor_of_dealt
    (h : request.Dealt request.table.targets report.files report.failures) :
    request.AccountsFor report where
  dealt := h
  once := by
    intro entry hentry
    constructor
    · rintro ⟨file, -, hfile⟩ ⟨failure, hfailure, hname⟩
      -- types with one name are one type, and its outcome is not both
      obtain ⟨other, hother, herror, hclass⟩ := h.mem_failures.1 hfailure
      have hsame : entry = other := Table.eq_of_className_eq
        (Table.mem_entries_of_mem_targets hentry) (Table.mem_entries_of_mem_targets hother)
        (hname.symm.trans hclass)
      rw [hsame, herror] at hfile
      simp at hfile
    · intro hnone
      rw [h.exists_mem_files_iff hentry]
      cases houtcome : request.outcome entry with
      | ok file => exact ⟨file, rfl⟩
      | error error =>
        have hfailure : ⟨entry.className, error⟩ ∈ report.failures :=
          h.mem_failures.2 ⟨entry, hentry, houtcome, rfl⟩
        exact absurd ⟨_, hfailure, rfl⟩ hnone
  named := by
    intro file hfile
    obtain ⟨entry, hentry, houtcome⟩ := h.mem_files.1 hfile
    exact ⟨entry, hentry, houtcome, className_of_outcome houtcome, fileName_of_outcome houtcome⟩
  noDefaultFile := by
    intro file hfile
    obtain ⟨entry, -, houtcome⟩ := h.mem_files.1 hfile
    have hclass : file.className ≠ request.defaultClass := by
      rw [className_of_outcome houtcome]
      exact (outcome_eq_ok_iff.1 houtcome).1
    refine ⟨hclass, fun hname => hclass ?_⟩
    exact List.append_cancel_right hname
  noDefaultFailure := by
    intro failure hfailure heq
    obtain ⟨entry, hentry, -, hclass⟩ := h.mem_failures.1 hfailure
    exact Table.className_ne_default hentry (hclass.symm.trans heq)

/-- **Targets are independent and none is lost.** The targets of a request are the entries of its
table but the default one, and a request that keeps going has a report that accounts for them.
With any other table of the same default type each target has the outcome that it had; so targets
in another order give the same files and failures in another order, and targets that are left out
or added take theirs away or bring theirs. -/
theorem targets_independent (request : Request) :
    request.table.targets = request.table.entries.filter (· ≠ request.table.default) ∧
      ∃ report, (request.under .keepGoing).generate = .ok report ∧ request.AccountsFor report ∧
        ∀ table : Table, table.default = request.table.default →
          (∀ entry, (request.onTable table).outcome entry = request.outcome entry) ∧
          ∃ other, ((request.onTable table).under .keepGoing).generate = .ok other ∧
            (request.onTable table).AccountsFor other ∧
            (table.targets.Perm request.table.targets →
              other.files.Perm report.files ∧ other.failures.Perm report.failures) ∧
            (table.targets.Sublist request.table.targets →
              other.files.Sublist report.files ∧ other.failures.Sublist report.failures) ∧
            (request.table.targets.Sublist table.targets →
              report.files.Sublist other.files ∧ report.failures.Sublist other.failures) := by
  obtain ⟨report, hreport⟩ := exists_generate_keepGoing request
  have hdealt := generate_keepGoing_iff.1 hreport
  refine ⟨request.table.targets_eq_filter, report, hreport, accountsFor_of_dealt hdealt, ?_⟩
  intro table hdefault
  refine ⟨fun entry => by rw [outcome_onTable hdefault], ?_⟩
  obtain ⟨other, hother⟩ := exists_generate_keepGoing (request.onTable table)
  have hdealt' := generate_keepGoing_iff.1 hother
  -- the other table deals its targets by the same outcomes
  have hsame : request.Dealt table.targets other.files other.failures :=
    (dealt_onTable hdefault).1 hdealt'
  exact ⟨other, hother, accountsFor_of_dealt hdealt', hdealt.perm hsame, hdealt.sublist hsame,
    hsame.sublist hdealt⟩

/-- A type of numbers with a fraction. -/
def fraction : Descriptor where
  storageKind := "F64".toList
  boxedName := "Double".toList
  primitiveName := "double".toList
  accessor := "get".toList
  conversion := "real(o)".toList
  formatSpec := "%f".toList
  sentinel := "NaN".toList
  filled := by decide

/-- A type of whole numbers. -/
def whole : Descriptor where
  storageKind := "I32".toList
  boxedName := "Int".toList
  primitiveName := "int".toList
  accessor := "at".toList
  conversion := "long(o)".toList
  formatSpec := "%d".toList
  sentinel := "MIN".toList
  filled := by decide

/-- A table where one of the targets has the class of the master in interfaces. -/
def mixedTable : Table where
  before := []
  default := ⟨"D".toList, fraction, .real, false⟩
  after :=
    [⟨"DBase".toList, whole, .integer, false⟩, ⟨"F".toList, fraction, .real, false⟩,
      ⟨"IBase".toList, whole, .integer, false⟩]
  distinct := by decide

/-- The same types in another order, with the default one between them. -/
def shuffledTable : Table where
  before := [⟨"IBase".toList, whole, .integer, false⟩, ⟨"DBase".toList, whole, .integer, false⟩]
  default := ⟨"D".toList, fraction, .real, false⟩
  after := [⟨"F".toList, fraction, .real, false⟩]
  distinct := by decide

/-- A request for the interfaces of the first table. -/
def mixedRequest : Request where
  master := "interface D { double v; }".toList
  table := mixedTable
  mode := .interface
  options := { Options.standard with required := .empty }
  stripBaseClass := false
  policy := .failFast
  tables := .standard

/-- The interfaces of its targets, but the one that has the name of the master. -/
def mixedFiles : List GeneratedFile :=
  [⟨"F".toList, "interface F { double v; }".toList⟩, ⟨"I".toList, "interface I { int v; }".toList⟩]

theorem targets_independent_shuffled :
    shuffledTable.default = mixedRequest.table.default ∧
      shuffledTable.targets.Perm mixedRequest.table.targets ∧
      ∃ report other, (mixedRequest.under .keepGoing).generate = .ok report ∧
        ((mixedRequest.onTable shuffledTable).under .keepGoing).generate = .ok other ∧
        report = ⟨mixedFiles, [⟨"DBase".toList, .selfGeneration "D".toList⟩]⟩ ∧
        other.files ≠ report.files ∧ other.files.Perm mixedFiles ∧
        other.failures.Perm report.failures := by
  have hperm : shuffledTable.targets.Perm mixedRequest.table.targets := by decide +kernel
  obtain ⟨-, report, hreport, -, hothers⟩ := targets_independent mixedRequest
  obtain ⟨-, other, hother, -, hshuffled, -⟩ := hothers shuffledTable rfl
  obtain ⟨hfiles, hfailures⟩ := hshuffled hperm
  have hmixed : (mixedRequest.under .keepGoing).generate =
      .ok ⟨mixedFiles, [⟨"DBase".toList, .selfGeneration "D".toList⟩]⟩ := by
    decide +kernel
  have horder : ((mixedRequest.onTable shuffledTable).under .keepGoing).generate.map Report.files =
      .ok mixedFiles.reverse := by
    decide +kernel
  obtain rfl := Except.ok.inj (hreport.symm.trans hmixed)
  refine ⟨rfl, hperm, _, other, hreport, hother, rfl, fun heq => ?_, hfiles, hfailures⟩
  rw [hother, Except.map, Except.ok.injEq, heq] at horder
  exact absurd horder (by decide)

end Request

end Siblings
