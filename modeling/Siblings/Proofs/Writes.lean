import Siblings.Proofs.Untouched

/-!
# What a run writes

The files that a run writes are the classes of its report, one after the other, up to the first
that cannot be written. All of that happens in its delivery.

* `Run.produce`: the part of a run in front of its delivery.
* `perform_run_produce`, `writes_run`: **a run is what it produces, and the delivery of that.**
* `run_of_error`, `run_of_dry`, `run_of_wet`: what a run does, in three cases.
* `run_eq_ok_iff`: when a run that is not dry succeeds.
* `run_delivers`: what becomes of a product.
-/

namespace Siblings.Run

open Script (Passive)

variable {logger : Logger} {config : RunConfig} {desk : Desk}

/-! ## What a run produces -/

/-- **What a run produces** before it delivers anything. -/
structure Product where
  catalog : Catalog
  fileName : Text
  text : Text
  report : Report

/-- What a run reports on its product once some files are delivered. -/
def Product.toReport (product : Product) (config : RunConfig) (files : List OutputFile) :
    RunReport where
  master := config.master
  catalog := product.catalog.name
  mode := Mode.ofFileName product.fileName
  outputDir := config.outputDir
  files
  failures := product.report.failures
  dryRun := config.dryRun

/-- What a run is asked for. -/
def Product.request (product : Product) (config : RunConfig) : Request :=
  requestOf config product.catalog product.fileName product.text

/-- The product of a run that has its catalog and its master. -/
def productOf (config : RunConfig) (catalog : Catalog) (fileName text : Text) :
    Except RunError Product :=
  let request := requestOf config catalog fileName text
  match Report.ofOutcomes request.outcomes request.policy with
  | .error error => .error (.generation config.master error)
  | .ok report => .ok ⟨catalog, fileName, text, report⟩

/-- **The part of a run in front of its delivery.** -/
def produce (logger : Logger) (config : RunConfig) : Script (Except RunError Product) := do
  match ← prepare logger config with
  | .error error => return .error error
  | .ok (catalog, fileName, text) =>
    let request := requestOf config catalog fileName text
    announce logger catalog request
    let _ ← generate logger request
    return productOf config catalog fileName text

theorem passive_produce : Passive logger (produce logger config) := by
  refine passive_prepare.bind fun prepared => ?_
  cases prepared with
  | error error => exact .pure _
  | ok found =>
    exact (passive_announce _ _).bind fun _ => (passive_generate _).bind fun _ => .pure _

theorem noted_produce {result : Except RunError Product} {ready : Desk}
    (h : (produce logger config).perform desk = (result, ready)) :
    logger.Noted desk.disk ready.disk := by
  have hpassive : Passive logger (produce logger config) := passive_produce
  have hnoted := hpassive.onlyNotes desk
  rwa [h] at hnoted

/-- What is produced depends on what is prepared only. -/
theorem perform_produce_fst (logger : Logger) (config : RunConfig) (desk : Desk) :
    ((produce logger config).perform desk).1 =
      match ((prepare logger config).perform desk).1 with
      | .error error => .error error
      | .ok (catalog, fileName, text) => productOf config catalog fileName text := by
  unfold produce
  rw [Script.perform_bind]
  cases ((prepare logger config).perform desk).1 with
  | error error => rfl
  | ok found => simp only [Script.perform_bind, Script.perform_pure]

/-- **A run is what it produces,** and the delivery of that. -/
theorem perform_run_produce (logger : Logger) (config : RunConfig) (desk : Desk) :
    (run logger config).perform desk =
      match (produce (spanned logger config) config).perform desk with
      | (.error error, ready) => (.error error, ready)
      | (.ok product, ready) =>
        match (deliver (spanned logger config) config product.report.files).perform ready with
        | (.error error, after) => (.error (.output error), after)
        | (.ok files, after) =>
          (.ok (product.toReport config files),
            ((conclude (spanned logger config) config files product.report).perform after).2) := by
  rw [perform_run, produce, Script.perform_bind]
  rcases (prepare (spanned logger config) config).perform desk with
    ⟨error | ⟨catalog, fileName, text⟩, middle⟩
  · rfl
  · simp only [perform_runWith, Script.perform_bind, Script.perform_pure, productOf]
    cases Report.ofOutcomes _ _ <;> rfl

theorem writes_runWith (catalog : Catalog) (fileName text : Text) :
    (runWith logger config 0 catalog fileName text).writes desk =
      let request := requestOf config catalog fileName text
      let ready := ((generate logger request).perform
        ((announce logger catalog request).perform desk).2).2
      match Report.ofOutcomes request.outcomes request.policy with
      | .error _ => []
      | .ok report => (deliver logger config report.files).writes ready := by
  have hgenerate : ∀ request desk, (generate logger request).writes desk = [] :=
    fun request => (passive_generate request).writes_eq_nil
  unfold runWith
  simp only [Script.writes_bind, Script.perform_bind, Logger.writes_note, hgenerate,
    List.nil_append, perform_generate_fst, announce]
  cases Report.ofOutcomes _ _ with
  | error error => rfl
  | ok report =>
    simp only [Script.writes_bind]
    cases ((deliver logger config report.files).perform _).1 with
    | error error => exact List.append_nil _
    | ok files =>
      -- what is noted at the end is no file that is written
      simp only [Script.writes_bind, Logger.writes_note, Script.writes_pure, List.append_nil]
      exact List.append_nil _

/-- **The files that a run writes** are those of its delivery. -/
theorem writes_run (logger : Logger) (config : RunConfig) (desk : Desk) :
    (run logger config).writes desk =
      match (produce (spanned logger config) config).perform desk with
      | (.error _, _) => []
      | (.ok product, ready) =>
        (deliver (spanned logger config) config product.report.files).writes ready := by
  have hread : ∀ desk, (readMaster config.master).writes desk = [] :=
    (passive_readMaster config.master : Passive logger _).writes_eq_nil
  have hselect : ∀ fileName desk,
      (selectCatalog (spanned logger config) config.catalog fileName).writes desk = [] :=
    fun fileName => (passive_selectCatalog config.catalog fileName).writes_eq_nil
  unfold run produce prepare
  rw [← spanned]
  simp only [Script.perform_bind, Script.writes_bind, hread, Script.perform, Script.writes,
    List.nil_append]
  cases ((readMaster config.master).perform desk).1 with
  | error fault => rfl
  | ok text =>
    cases Path.fileName? config.master with
    | none => rfl
    | some fileName =>
      simp only [Script.perform_bind, Script.writes_bind, hselect, List.nil_append]
      rcases ((selectCatalog (spanned logger config) config.catalog fileName).perform
        ((readMaster config.master).perform desk).2).1 with error | catalog
      · rfl
      · simp only [writes_runWith, Script.perform_bind, Script.perform_pure, productOf]
        cases Report.ofOutcomes _ _ <;> rfl

/-! ## What a run does -/

/-- A run that produces nothing writes nothing. -/
theorem run_of_error (config : RunConfig) {error : RunError} {ready : Desk}
    (h : (produce (spanned logger config) config).perform desk = (.error error, ready)) :
    (run logger config).perform desk = (.error error, ready) ∧
      (run logger config).writes desk = [] := by
  rw [perform_run_produce, writes_run, h]
  exact ⟨rfl, rfl⟩

/-- A dry run that produces something plans its files. -/
theorem run_of_dry (config : RunConfig) {product : Product} {ready : Desk} (hdry : config.dryRun = true)
    (h : (produce (spanned logger config) config).perform desk = (.ok product, ready)) :
    let outputs := product.report.files.map (plan config.outputDir)
    (run logger config).perform desk =
        (.ok (product.toReport config outputs),
          ((conclude (spanned logger config) config outputs product.report).perform ready).2) ∧
      (run logger config).writes desk = [] := by
  rw [perform_run_produce, writes_run, h]
  simp only [deliver, hdry]
  exact ⟨rfl, rfl⟩

/-- **A run that is not dry** delivers what it produces: it writes all classes and reports them, or
stops where something cannot be written. -/
theorem run_of_wet (config : RunConfig) {product : Product} {ready : Desk} (hwet : config.dryRun = false)
    (h : (produce (spanned logger config) config).perform desk = (.ok product, ready)) :
    ∃ front made written, Delivers (spanned logger config) config.outputDir product.report.files
        front ready.disk made written.disk ∧
      (run logger config).writes desk = front.map (writeOf config.outputDir) ∧
      let outputs := product.report.files.map (plan config.outputDir)
      (front = product.report.files ∧ (run logger config).perform desk =
          (.ok (product.toReport config outputs),
            ((conclude (spanned logger config) config outputs product.report).perform written).2) ∨
        ∃ path fault, (run logger config).perform desk =
          (.error (.output (.unwritable path fault)), written)) := by
  rcases hdelivered : (writeFiles (spanned logger config) config.outputDir
    product.report.files).perform ready with ⟨result, written⟩
  obtain ⟨front, made, hdelivers, hwrites, hends⟩ := writeFiles_cases hdelivered
  refine ⟨front, made, written, hdelivers, ?_, ?_⟩
  · rw [writes_run, h, ← hwrites]
    simp only [deliver, hwet]
    rfl
  · have hrun := perform_run_produce logger config desk
    rw [h] at hrun
    simp only [deliver, hwet, Bool.false_eq_true, if_false, hdelivered] at hrun
    rcases hends.cases with ⟨hfront, rfl⟩ | ⟨path, fault, rfl⟩
    · exact .inl ⟨hfront, hrun⟩
    · exact .inr ⟨path, fault, hrun⟩

/-- **A run that is not dry succeeds** if it produces something and can write it. -/
theorem run_eq_ok_iff {report : RunReport} {after : Desk} (hwet : config.dryRun = false) :
    (run logger config).perform desk = (.ok report, after) ↔
      ∃ product ready outputs written,
        (produce (spanned logger config) config).perform desk = (.ok product, ready) ∧
        (writeFiles (spanned logger config) config.outputDir product.report.files).perform ready =
          (.ok outputs, written) ∧
        product.toReport config outputs = report ∧
        ((conclude (spanned logger config) config outputs product.report).perform written).2 =
          after := by
  rw [perform_run_produce]
  rcases (produce (spanned logger config) config).perform desk with ⟨error | product, ready⟩
  · simp
  simp only [deliver, hwet, Bool.false_eq_true, if_false]
  rcases hdeliver : (writeFiles (spanned logger config) config.outputDir
    product.report.files).perform ready with ⟨error | outputs, written⟩
  · simp [hdeliver]
  · simp [hdeliver]

/-- A run that produces something delivers the classes at the front of it, none if it is dry, and
notes its end. -/
theorem run_delivers {product : Product} {ready : Desk}
    (h : (produce (spanned logger config) config).perform desk = (.ok product, ready)) :
    ∃ front made written, Delivers (spanned logger config) config.outputDir product.report.files
        front ready.disk made written ∧
      (run logger config).writes desk = front.map (writeOf config.outputDir) ∧
      (spanned logger config).Noted written ((run logger config).perform desk).2.disk := by
  cases hdry : config.dryRun with
  | true =>
    obtain ⟨hrun, hwrites⟩ := run_of_dry config hdry h
    refine ⟨[], ready.disk, ready.disk, ⟨.refl _ _, List.nil_prefix, .nil _ _ _⟩, hwrites, ?_⟩
    rw [hrun]
    exact Logger.noted_note _ _ _ _
  | false =>
    obtain ⟨front, made, written, hdelivers, hwrites, ⟨-, hrun⟩ | ⟨path, fault, hrun⟩⟩ :=
      run_of_wet config hdry h
    · refine ⟨front, made, written.disk, hdelivers, hwrites, ?_⟩
      rw [hrun]
      exact Logger.noted_note _ _ _ _
    · refine ⟨front, made, written.disk, hdelivers, hwrites, ?_⟩
      rw [hrun]
      exact .refl _ _

end Siblings.Run
