import Siblings.Proofs.Writes

/-!
# Dry runs

A dry run and the run itself produce the same, since whether a run is dry matters to its delivery
only. The one plans its files, the other writes them.

* `sizeOfWrite_writeOf`: a class is written with the length that is planned for it.
* `dry_run_predicts`: **a dry run predicts the run itself,** its error or the files that it writes.
-/

namespace Siblings.Run

variable {logger : Logger} {config : RunConfig} {desk : Desk}

/-- The path of a file, and how many bytes are written to it. -/
def sizeOfWrite (write : Text × List UInt8) : Text × Nat := (write.1, write.2.length)

/-- The path of a file that is reported, and its length. -/
def sizeOfOutput (output : OutputFile) : Text × Nat := (output.path, output.bytes)

/-- A class is written with the length that is planned for it. -/
theorem sizeOfWrite_writeOf (outputDir : Text) (file : GeneratedFile) :
    sizeOfWrite (writeOf outputDir file) = sizeOfOutput (plan outputDir file) := by
  rw [sizeOfWrite, writeOf, Text.length_encode]
  rfl

theorem map_sizeOfWrite (outputDir : Text) (files : List GeneratedFile) :
    (files.map (writeOf outputDir)).map sizeOfWrite =
      (files.map (plan outputDir)).map sizeOfOutput := by
  rw [List.map_map, List.map_map]
  exact List.map_congr_left fun file _ => sizeOfWrite_writeOf outputDir file

/-- **A dry run predicts the run itself.** If the dry run fails, the run fails with the same error
and writes nothing. If it plans some files, the run reports the same, or meets one that cannot be
written. The files that the run writes are the planned ones, in order and with the planned
lengths, up to that one. -/
theorem dry_run_predicts (logger : Logger) (config : RunConfig) (desk : Desk) :
    let dry := ((run logger { config with dryRun := true }).perform desk).1
    let wet := ((run logger { config with dryRun := false }).perform desk).1
    let writes := (run logger { config with dryRun := false }).writes desk
    (∀ error, dry = .error error → wet = .error error ∧ writes = []) ∧
      ∀ planned, dry = .ok planned →
        wet = .ok { planned with dryRun := false } ∧
            writes.map sizeOfWrite = planned.files.map sizeOfOutput ∨
          (∃ path fault, wet = .error (.output (.unwritable path fault))) ∧
            writes.map sizeOfWrite <+: planned.files.map sizeOfOutput := by
  intro dry wet writes
  rcases h : (produce (spanned logger config) config).perform desk with ⟨error | product, ready⟩
  · -- without a product there is nothing to deliver, dry or not
    obtain ⟨hdry, -⟩ := run_of_error { config with dryRun := true } h
    obtain ⟨hwet, hwrites⟩ := run_of_error { config with dryRun := false } h
    refine ⟨fun other hother => ⟨?_, hwrites⟩, fun planned hplanned => ?_⟩
    · exact (congrArg Prod.fst hwet).trans ((congrArg Prod.fst hdry).symm.trans hother)
    · exact absurd ((congrArg Prod.fst hdry).symm.trans hplanned) (by simp)
  · obtain ⟨hdry, -⟩ := run_of_dry { config with dryRun := true } rfl h
    refine ⟨fun other hother => ?_, fun planned hplanned => ?_⟩
    · exact absurd ((congrArg Prod.fst hdry).symm.trans hother) (by simp)
    · obtain rfl := Except.ok.inj ((congrArg Prod.fst hdry).symm.trans hplanned)
      obtain ⟨front, made, written, hdelivers, hwrites, hcases⟩ :=
        run_of_wet { config with dryRun := false } rfl h
      have hsizes : writes.map sizeOfWrite =
          (front.map (plan config.outputDir)).map sizeOfOutput := by
        rw [← map_sizeOfWrite, ← hwrites]
      rcases hcases with ⟨rfl, hwet⟩ | ⟨path, fault, hwet⟩
      · exact .inl ⟨congrArg Prod.fst hwet, hsizes⟩
      · refine .inr ⟨⟨path, fault, congrArg Prod.fst hwet⟩, ?_⟩
        rw [hsizes]
        exact (hdelivers.initial.map _).map _

end Siblings.Run
