import Gamebook.Proofs.Files.Sites
import Gamebook.Proofs.Run.Telling
import Gamebook.Publish.Site

/-!
A site is written below its own directory.
-/

namespace Gamebook.Publish

open Gamebook.Text Gamebook.Files Gamebook.Run

variable {before : FileTree} {place : Location} {job : Job} {ending : Text}
  {templates : Template.PageTemplates} {page : Play.Page} {document : Document}

theorem Job.name_of_document (rendered : job.document templates ending page = .ok document) :
    document.name = pageName ending page.state := by
  unfold Job.document at rendered
  generalize templates.renderScene _ = content at rendered
  cases content with
  | error fault => cases rendered
  | ok content =>
      cases rendered
      rfl

namespace Site

theorem pageName_ne_dots (state : Play.State) : Job.pageName pageEnding state ≠ ['.', '.'] := by
  intro dots
  have last := congrArg List.getLast? dots
  have ends : pageEnding.getLast? = some 'l' := by decide
  rw [Job.pageName, List.getLast?_append, ends, Option.some_or] at last
  exact absurd last (by decide)

theorem keeps_write {name content : Text} (proper : name ≠ ['.', '.']) :
    Keeps (Quietly (before.IsSite job.output place)) (write job name content) :=
  keeps_onFiles (keeps_writeFile_below (areBelow_singleton.mpr proper))

theorem keeps_writePages (pages : List Play.Page) :
    Keeps (Quietly (before.IsSite job.output place)) (writePages job templates pages) := by
  induction pages with
  | nil => exact Keeps.pure _
  | cons page pages ih =>
      refine Attempts.keeps (Attempts.andThen (Attempts.ofExcept fun _ => id) ?_)
      rintro document world ⟨rendered, held⟩
      have proper : document.name ≠ ['.', '.'] := by
        rw [Job.name_of_document rendered]
        exact pageName_ne_dots page.state
      exact (Keeps.andThen (keeps_write proper) fun _ => ih).attempts (fun _ => id) world held

/-- Wherever a site is once its directory has been made, it stays there, and nothing outside of it
changes. -/
theorem keeps_publish : Keeps (Quietly (before.IsSite job.output place)) (publish job) := by
  have own : job.output = job.output.below [] := by simp [Path.below]
  have directory : Keeps (before.IsSite job.output place)
      (makeAllDirectories true (job.output.below [])) :=
    keeps_makeAllDirectories_below (by simp [AreBelow])
  rw [← own] at directory
  refine Keeps.andThen (keeps_onFiles directory) fun _ => ?_
  refine Keeps.andThen (Keeps.ofExcept _) fun templates => ?_
  refine Keeps.andThen (Keeps.ofExcept _) fun pages => ?_
  refine Keeps.andThen (Keeps.lift (keeps_emit _)) fun _ => ?_
  refine Keeps.andThen (Keeps.ofExcept _) fun title => ?_
  refine Keeps.andThen (keeps_write (by decide)) fun _ => ?_
  refine Keeps.andThen (keeps_write (by decide)) fun _ => ?_
  refine Keeps.andThen (keeps_writePages pages) fun _ => ?_
  cases job.imageDirectory with
  | none => exact Keeps.pure _
  | some images =>
      have copied : Keeps (before.IsSite job.output place)
          (copyBelow images (job.output.child imageDirectory)) :=
        keeps_copyBelow (areBelow_singleton.mpr (by decide))
      exact Keeps.andThen (keeps_onFiles copied) fun _ => Keeps.pure _

end Site

end Gamebook.Publish
