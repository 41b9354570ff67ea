import Siblings.Proofs.Derivation
import Siblings.Proofs.Script
import Siblings.Run

/-!
# The parts of a run

A run reads what it needs, generates, and delivers. Only the delivery writes classes; what comes
before notes events.

* `Run.prepare`: the part of a run that reads.
* `Run.perform_run`: **a run is its preparation and what is done with the result.**
* `Run.perform_runWith`: what is done, by the outcome of the generation and of the delivery.
* `Report.files_of_ofOutcomes`: the classes of a report.
-/

namespace Siblings

/-! ## The report of a generation -/

/-- **The classes of a report** are those of the outcomes that have one, under either policy. -/
theorem Report.files_of_ofOutcomes {outcomes : List Outcome} {policy : Policy} {report : Report}
    (h : Report.ofOutcomes outcomes policy = .ok report) :
    report.files = outcomes.filterMap Outcome.file? := by
  cases policy with
  | keepGoing => rw [← Except.ok.inj h]
  | failFast =>
    obtain ⟨files, hfiles, rfl⟩ := map_eq_ok_iff.1 h
    -- every outcome has a class, so none is left out
    have hmap := mapM_eq_ok_iff.1 hfiles
    calc files
        = (files.map Except.ok).filterMap (Except.toOption (ε := GenError)) := by
          rw [List.filterMap_map]
          exact List.filterMap_some.symm
      _ = (outcomes.map Prod.snd).filterMap Except.toOption := by rw [hmap]
      _ = outcomes.filterMap Outcome.file? := by
          rw [List.filterMap_map]
          refine List.filterMap_congr fun outcome _ => ?_
          unfold Outcome.file?
          cases hout : outcome.2 <;> simp [hout, Except.toOption]

namespace Run

variable {logger : Logger} {config : RunConfig} {desk : Desk}

/-! ## The script of a run -/

/-- The logger of a run. -/
def spanned (logger : Logger) (config : RunConfig) : Logger :=
  logger.within "dtgen" (.bare "master" config.master)

@[simp]
theorem shows_spanned (level : Level) :
    (spanned logger config).shows level = logger.shows level := Logger.shows_within _ _

@[simp]
theorem place?_spanned (disk : Disk) :
    (spanned logger config).place? disk = logger.place? disk := Logger.place?_within _ _ _

/-- **The part of a run that reads:** the catalog, the name of the master's file, and its text. -/
def prepare (logger : Logger) (config : RunConfig) :
    Script (Except RunError (Catalog × Text × Text)) := do
  match ← readMaster config.master with
  | .error fault => return .error (.input config.master fault)
  | .ok text =>
    match Path.fileName? config.master with
    | none => return .error (.input config.master .unnamed)
    | some fileName =>
      match ← selectCatalog logger config.catalog fileName with
      | .error error => return .error error
      | .ok catalog => return .ok (catalog, fileName, text)

/-- **A run that has what it needs** has read its master, has a name for it, and has found its
catalog. -/
theorem prepare_eq_ok_iff {catalog : Catalog} {fileName text : Text} :
    ((prepare logger config).perform desk).1 = .ok (catalog, fileName, text) ↔
      (∃ bytes, desk.disk.read config.master = .ok bytes ∧ Text.decode bytes = .ok text) ∧
        Path.fileName? config.master = some fileName ∧
        ((selectCatalog logger config.catalog fileName).perform desk).1 = .ok catalog := by
  unfold prepare readMaster
  simp only [Script.perform_bind, Script.perform, ← mapError_eq_ok_iff (f := InputFault.encoding)]
  cases desk.disk.read config.master with
  | error fault => simp [Script.perform]
  | ok bytes =>
    simp only [Except.ok.injEq, exists_eq_left', Script.perform]
    cases (Text.decode bytes).mapError InputFault.encoding with
    | error fault => simp
    | ok decoded =>
      cases Path.fileName? config.master with
      | none => simp
      | some name =>
        rw [Script.perform_bind]
        constructor
        · intro h
          split at h
          · simp at h
          · rename_i found hfound
            simp only [Script.perform_pure, Except.ok.injEq, Prod.mk.injEq] at h
            obtain ⟨rfl, rfl, rfl⟩ := h
            exact ⟨rfl, rfl, hfound⟩
        · rintro ⟨hdecoded, hname, hcatalog⟩
          obtain rfl := Option.some.inj hname
          obtain rfl := Except.ok.inj hdecoded
          rw [hcatalog]
          rfl

/-- **A run is its preparation** and what is done with the result. -/
theorem perform_run (logger : Logger) (config : RunConfig) (desk : Desk) :
    (run logger config).perform desk =
      match (prepare (spanned logger config) config).perform desk with
      | (.error error, middle) => (.error error, middle)
      | (.ok (catalog, fileName, text), middle) =>
        (runWith (spanned logger config) config 0 catalog fileName text).perform middle := by
  unfold run prepare spanned
  simp only [Script.perform_bind, Script.perform]
  cases ((readMaster config.master).perform desk).1 with
  | error fault => rfl
  | ok text =>
    cases Path.fileName? config.master with
    | none => rfl
    | some fileName =>
      simp only [Script.perform_bind]
      cases ((selectCatalog _ config.catalog fileName).perform
        ((readMaster config.master).perform desk).2).1 <;> rfl

/-- The generation of a run reports on the outcomes of its request. -/
theorem perform_generate_fst (request : Request) (desk : Desk) :
    ((generate logger request).perform desk).1 =
      Report.ofOutcomes request.outcomes request.policy := by
  unfold generate
  simp only [Script.perform_bind]
  split <;> simp

/-- What a run notes once its catalog is there. -/
def announce (logger : Logger) (catalog : Catalog) (request : Request) : Script Unit := do
  logger.note .info "master loaded"
    [.quoted "catalog" catalog.name, .bare "mode" request.mode.title]
  logger.note .debug "required default tokens"
    [.count "required" request.options.required.size]

/-- What a run notes at its end. -/
def conclude (logger : Logger) (config : RunConfig) (files : List OutputFile) (report : Report) :
    Script Unit :=
  logger.note .info "dtgen complete"
    [.count "written" (if config.dryRun then 0 else files.length),
      .count "failed" report.failures.length, .count "duration_ms" 0]

/-- **What is done in a run** once its master and its catalog are there: a failed generation
delivers nothing, and what is delivered is reported. -/
theorem perform_runWith (catalog : Catalog) (fileName text : Text) :
    (runWith logger config 0 catalog fileName text).perform desk =
      let request := requestOf config catalog fileName text
      let ready := ((generate logger request).perform
        ((announce logger catalog request).perform desk).2).2
      match Report.ofOutcomes request.outcomes request.policy with
      | .error error => (.error (.generation config.master error), ready)
      | .ok report =>
        match (deliver logger config report.files).perform ready with
        | (.error error, after) => (.error (.output error), after)
        | (.ok files, after) =>
          (.ok
            { master := config.master
              catalog := catalog.name
              mode := request.mode
              outputDir := config.outputDir
              files
              failures := report.failures
              dryRun := config.dryRun },
            ((conclude logger config files report).perform after).2) := by
  unfold runWith
  simp only [Script.perform_bind, perform_generate_fst, announce]
  cases Report.ofOutcomes _ _ with
  | error error => rfl
  | ok report =>
    simp only [Script.perform_bind]
    generalize (deliver logger config report.files).perform _ = delivered
    rcases delivered with ⟨error | files, after⟩
    · rfl
    · simp only [Script.perform_bind, Script.perform]
      rfl

end Run

end Siblings
