import Gamebook.Proofs.Run.Stages
import Gamebook.Proofs.Text.Items

/-!
The tests of files that are made before a story is rendered. Where each of them is answered, they come
to an answer as a whole.
-/

namespace Gamebook.Run

open Gamebook.Text Gamebook.Files

variable {config : Config} {world : World} {tree : FileTree} {path : Path} {ε α : Type}

/-- The paths that are tested before a story is rendered. -/
def Config.testedPaths (config : Config) : List Path :=
  config.inputPath.toList ++ config.output.toList ++
    (config.templateDirectory.toList.flatMap fun directory =>
      directory :: templateFiles.map directory.child) ++
    config.imageDirectory.toList

/-- What depends on a test comes to a result where the test is answered. -/
theorem tested_bind {answer : Bool} {rest : Bool → Except Fault α} (answered : tree.testFault? path = none) :
    (tree.tested path answer >>= rest) = rest answer := by
  unfold FileTree.tested
  rw [answered]
  rfl

namespace Preflight

variable (answered : ∀ path ∈ config.testedPaths, tree.testFault? path = none)

include answered

theorem exists_sourceFault : ∃ found, sourceFault tree config = .ok found := by
  unfold sourceFault
  cases asked : config.inputPath with
  | none => exact ⟨_, rfl⟩
  | some path => exact ⟨_, tested_bind (answered path (by simp [Config.testedPaths, asked]))⟩

theorem exists_outputFault : ∃ found, outputFault tree config = .ok found := by
  unfold outputFault
  cases asked : config.output with
  | none => exact ⟨_, rfl⟩
  | some path => exact ⟨_, tested_bind (answered path (by simp [Config.testedPaths, asked]))⟩

theorem exists_templateFault : ∃ found, templateFault tree config = .ok found := by
  unfold templateFault
  cases asked : config.templateDirectory with
  | none => exact ⟨_, rfl⟩
  | some path => exact ⟨_, tested_bind (answered path (by simp [Config.testedPaths, asked]))⟩

theorem exists_imageFault : ∃ found, imageFault tree config = .ok found := by
  unfold imageFault
  cases asked : config.imageDirectory with
  | none => exact ⟨_, rfl⟩
  | some path => exact ⟨_, tested_bind (answered path (by simp [Config.testedPaths, asked]))⟩

theorem exists_firstFault : ∃ found, firstFault tree config = .ok found := by
  obtain ⟨source, first⟩ := exists_sourceFault answered
  obtain ⟨output, second⟩ := exists_outputFault answered
  obtain ⟨template, third⟩ := exists_templateFault answered
  unfold firstFault
  rw [first, second, third]
  cases source with
  | some fault => exact ⟨_, rfl⟩
  | none =>
      cases output with
      | some fault => exact ⟨_, rfl⟩
      | none => exact ⟨_, rfl⟩

theorem exists_remarks : ∃ told, config.templateDirectory.mapM (remarks tree) = .ok told := by
  cases asked : config.templateDirectory with
  | none => exact ⟨none, rfl⟩
  | some directory =>
      have inside : ∀ name ∈ templateFiles, directory.child name ∈ config.testedPaths := by
        intro name member
        simp only [Config.testedPaths, asked, List.mem_append]
        exact .inl (.inr (List.mem_flatMap.mpr ⟨directory, List.mem_singleton_self _,
          .tail _ (List.mem_map_of_mem member)⟩))
      obtain ⟨missing, found⟩ : ∃ missing, missingTemplates tree directory = .ok missing :=
        exists_filterM_ok fun name member => ⟨_, tested_bind (answered _ (inside name member))⟩
      have told : ∃ texts, remarks tree directory = .ok texts := by
        unfold remarks
        rw [found]
        cases missing with
        | nil => exact ⟨_, rfl⟩
        | cons _ _ => exact ⟨_, rfl⟩
      obtain ⟨texts, told⟩ := told
      exact ⟨some texts, by simp [told]⟩

/-- Where the tests of the files are answered, so is the whole check. -/
theorem exists_check : ∃ found, (check tree config).2 = .ok found := by
  obtain ⟨found, first⟩ := exists_firstFault answered
  obtain ⟨told, remarked⟩ := exists_remarks answered
  obtain ⟨image, last⟩ := exists_imageFault answered
  unfold check
  rw [first, remarked, last]
  cases found with
  | some fault => exact ⟨_, rfl⟩
  | none => exact ⟨_, rfl⟩

end Preflight

theorem forM_report (channel : Channel) (texts : List String) (world : World) :
    (texts.forM fun text => liftM (report channel text) : Action ε PUnit).run world =
      (.ok (), texts.foldl (fun world text => world.report channel text) world) := by
  induction texts generalizing world with
  | nil => rfl
  | cons text texts ih => exact (run_andThen rfl).trans (ih _)

theorem preflight_gives (answered : ∀ path ∈ config.testedPaths, world.files.testFault? path = none) :
    ∃ found next, (preflight config).run world = (.ok found, next) := by
  obtain ⟨found, answer⟩ := Preflight.exists_check answered
  unfold preflight
  rw [run_get]
  cases checked : Preflight.check world.files config with
  | mk remarks result =>
      rw [checked] at answer
      obtain rfl : result = .ok found := answer
      exact ⟨found, _, run_andThen (forM_report _ _ _)⟩

theorem checkFiles_gives (answered : config.isLint = false →
      ∀ path ∈ config.testedPaths, world.files.testFault? path = none) :
    ∃ prepared next, (checkFiles config).run world = (.ok prepared, next) := by
  unfold checkFiles
  split
  · exact ⟨_, _, rfl⟩
  · rename_i rendering
    obtain ⟨found, next, tested⟩ := preflight_gives (answered (Bool.eq_false_iff.mpr rendering))
    rw [run_andThen (adapt_of_ok tested)]
    cases found with
    | none => exact ⟨_, _, rfl⟩
    | some fault => exact ⟨_, _, rfl⟩

end Gamebook.Run
