import Siblings.Proofs.MasterFile

/-!
# Deliveries that stop

A delivery writes the classes of a list one after the other, and stops at the first that it cannot
write. Nothing is undone then: the directory is there, with those above it, and the classes in
front of the one that is refused. The disk has not changed anywhere else. On a `Disk` a class is
refused before its file is touched; one whose file can be opened is written to its end.

* `Wrote.lastText_prefix`: the log may add to what is written, and takes nothing away.
* `delivery_leaves_front`: **what a delivery leaves on the disk,** wherever it stops.
-/

namespace Siblings.Run

open Disk (AddsDirectoriesAt SameDirectories)

variable {logger : Logger} {desk : Desk} {outputDir : Text} {files : List GeneratedFile}
  {before after : Disk}

/-- **Log lines follow what is written.** The file at any place starts with the last class that
went there, or with what it was. -/
theorem Wrote.lastText_prefix (h : Wrote logger outputDir files before after)
    (place : Disk.Place) :
    lastText (classesAt before outputDir (some place) files) (before.bytesAt place) <+:
      after.bytesAt place := by
  unfold lastText
  rcases classesAt_cases before outputDir (some place) files with
    ⟨front, last, back, heq, hlast, hback, hclasses⟩ | ⟨hnone, hclasses⟩
  · obtain ⟨more, hnode, -⟩ := h.last front last back place heq hlast hback
    have hbytes : after.bytesAt place = Text.encode last.text ++ more := by
      rw [Disk.bytesAt, hnode]
    rw [hclasses, hbytes]
    exact List.prefix_append _ _
  · rw [hclasses]
    rcases hnode : before.node? place with _ | (old | _)
    · simp [Disk.bytesAt, hnode]
    · obtain ⟨more, hmore, -⟩ := h.others place hnone old hnode
      simp [Disk.bytesAt, hnode, hmore]
    · simp [Disk.bytesAt, hnode]

/-- **What a delivery leaves on the disk.** Without classes it does nothing. Otherwise it makes the
directory, with those above it, and writes the classes at the front of the list, each to its
place: all of them, or those in front of the first that the disk refuses, whose path is in the
error. At every place is the last of these classes that goes there, or what was there once the
directory was made; only the file of the log may have more lines. -/
theorem delivery_leaves_front {result : Except GenError (List OutputFile)} {written : Desk}
    (h : (writeFiles logger outputDir files).perform desk = (result, written)) :
    (files = [] → result = .ok [] ∧ written = desk) ∧
      (∀ file ∈ files, plan outputDir file =
        ⟨file.className, Path.join outputDir file.fileName, (Text.encode file.text).length⟩) ∧
      ∃ front made, Ends outputDir files front desk written result ∧
        AddsDirectoriesAt (Path.ancestors outputDir) desk.disk made ∧
        SameDirectories made written.disk ∧
        (∀ file ∈ front, ∃ place, placeOf made outputDir file = some place) ∧
        (∀ place, logger.Spares .debug made place →
          written.disk.node? place = nodeAfter made outputDir front place) ∧
        ∀ place, lastText (classesAt made outputDir (some place) front) (made.bytesAt place) <+:
          written.disk.bytesAt place := by
  refine ⟨?_, fun file _ => ?_, ?_⟩
  · rintro rfl
    obtain ⟨rfl, rfl⟩ := Prod.mk.inj h
    exact ⟨rfl, rfl⟩
  · rw [plan, Text.length_encode]
  · obtain ⟨front, made, hdelivers, -, hends⟩ := writeFiles_cases h
    exact ⟨front, made, hends, hdelivers.adds, hdelivers.wrote.same, hdelivers.wrote.placed,
      fun place => hdelivers.wrote.node?_eq, hdelivers.wrote.lastText_prefix⟩

/-- Two texts of one class, and a class in a directory that is not there. -/
def stoppedFiles : List GeneratedFile :=
  [⟨"A".toList, "first".toList⟩, ⟨"A".toList, "second".toList⟩, ⟨"no/B".toList, "third".toList⟩]

theorem delivery_leaves_front_stopped :
    ∃ result written,
      (writeFiles .silent "out/x".toList stoppedFiles).perform (.ofDisk .blank) =
        (result, written) ∧
      result = .error (.unwritable "out/x/no/B.java".toList .missing) ∧
      written.disk.read "out/x/A.java".toList = .ok (Text.encode "second".toList) ∧
      ∃ made, AddsDirectoriesAt ["out/x".toList, "out".toList] Disk.blank made ∧
        ∀ place, written.disk.node? place =
          nodeAfter made "out/x".toList (stoppedFiles.take 2) place := by
  have hresult : ((writeFiles .silent "out/x".toList stoppedFiles).perform
      (.ofDisk .blank)).1 = .error (.unwritable "out/x/no/B.java".toList .missing) := by
    decide +kernel
  have hread : ((writeFiles .silent "out/x".toList stoppedFiles).perform
      (.ofDisk .blank)).2.disk.read "out/x/A.java".toList =
        .ok (Text.encode "second".toList) := by
    decide +kernel
  rcases hrun : (writeFiles .silent "out/x".toList stoppedFiles).perform (.ofDisk .blank)
    with ⟨result, written⟩
  rw [hrun] at hresult hread
  dsimp only at hresult hread
  obtain ⟨-, -, front, made, hends, hadds, -, -, hnodes, -⟩ := delivery_leaves_front hrun
  have hfront : front = stoppedFiles.take 2 := by
    cases hends with
    | all hall hdir => simp at hresult
    | noDirectory fault => simp at hresult
    | refused file rest fault hnext =>
      obtain ⟨hpath, -⟩ := GenError.unwritable.inj (Except.error.inj hresult)
      have hothers : ∀ other ∈ stoppedFiles.take 2,
          (plan "out/x".toList other).path ≠ "out/x/no/B.java".toList := by
        decide
      rw [stoppedFiles] at hnext
      rcases front with _ | ⟨first, _ | ⟨second, front⟩⟩ <;>
        simp only [List.nil_append, List.cons_append, List.cons.injEq] at hnext
      · exact absurd hpath (hothers file (by simp [hnext.1, stoppedFiles]))
      · exact absurd hpath (hothers file (by simp [hnext.2.1, stoppedFiles]))
      · obtain ⟨rfl, rfl, hlast⟩ := hnext
        rcases List.append_eq_singleton_iff.1 hlast with ⟨rfl, -⟩ | ⟨-, hnil⟩
        · rfl
        · simp at hnil
  have hways : Path.ancestors "out/x".toList = ["out/x".toList, "out".toList] := by
    decide +kernel
  rw [hways] at hadds
  exact ⟨result, written, rfl, hresult, hread, made, hadds,
    fun place => hfront ▸ hnodes place fun hshows => by simp [Logger.shows, Logger.silent] at hshows⟩

end Siblings.Run
