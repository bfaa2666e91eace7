import Gamebook.Proofs.Publish.Linking
import Gamebook.Proofs.Run.Logging

/-!
What publishing a site leaves in its directory: the title page, the style sheet and the pages, each in
a file of its own, and nothing else.
-/

namespace Gamebook.Publish

open Gamebook.Text Gamebook.Files Gamebook.Files.FileTree Gamebook.Run Gamebook.Template

variable {job : Job} {output : Path} {place : Location} {documents : List Document}
  {templates : PageTemplates} {pages : List Play.Page}

def Document.file (document : Document) : Text × Content := (document.name, .ofText document.content)

namespace Site

/-- The output leads to a directory at this place, which holds these documents and nothing else. No log
file stands there. -/
abbrev Stands (output : Path) (place : Location) (documents : List Document) : World → Prop :=
  IsLogging (fun location => ¬ place <+: location)
    (IsListed output place (documents.map Document.file))

theorem mem_below {names : List Text} {entry : Entry} {world : World}
    (stands : Stands output place documents world) :
    (names, entry) ∈ world.files.below output ↔
      ∃ document ∈ documents, names = [document.name] ∧ entry = .file (.ofText document.content) := by
  rw [stands.held.mem_below]
  simp [Document.file]

theorem isApart_listed {files : List (Text × Content)} :
    IsApart (fun location => ¬ place <+: location) (IsListed output place files) :=
  fun _ _ _ wellFormed room outside listed => listed.put_outside wellFormed room outside

theorem attempts_write (document : Document) (proper : document.name ≠ ['.', '.'])
    (new : document.name ∉ documents.map Document.name) :
    Attempts (Stands job.output place documents) (write job document.name document.content)
      (fun _ => Stands job.output place (documents ++ [document])) fun _ => True := by
  have unlisted : document.name ∉ (documents.map Document.file).map Prod.fst := by
    rw [List.map_map]
    exact new
  have written : Attempts
      (fun tree => tree.WellFormed ∧ IsListed job.output place (documents.map Document.file) tree)
      (writeText (job.output.child document.name) document.content)
      (fun _ => IsListed job.output place ((documents ++ [document]).map Document.file))
      fun _ => True := by
    refine attempts_change (fun tree next held done => ?_) fun _ _ _ _ => trivial
    rw [List.map_append]
    exact held.2.writeFile held.1 proper unlisted done
  exact (IsLogging.attempts_onFiles isSafe_writeFile written).weaken (fun _ _ => id)
    fun _ _ => trivial

theorem attempts_writePages
    (distinct : (documents.map Document.name ++
      pages.map fun page => Job.pageName pageEnding page.state).Nodup) :
    Attempts (Stands job.output place documents) (writePages job templates pages)
      (fun _ world => ∃ written, List.Forall₂ (fun page document =>
        job.document templates pageEnding page = .ok document) pages written ∧
        Stands job.output place (documents ++ written) world) fun _ => True := by
  induction pages generalizing documents with
  | nil => exact Attempts.pure fun world stands => ⟨[], .nil, by rwa [List.append_nil]⟩
  | cons page pages ih =>
      refine Attempts.andThen (Attempts.ofExcept fun _ _ => trivial) ?_
      rintro document world ⟨rendered, stands⟩
      have own := Job.name_of_document rendered
      rw [List.map_cons, List.append_cons] at distinct
      have new : document.name ∉ documents.map Document.name := by
        rw [own]
        intro member
        have apart := (List.nodup_append.mp (List.nodup_append.mp distinct).1).2.2
        exact apart _ member _ (List.mem_singleton_self _) rfl
      have proper : document.name ≠ ['.', '.'] := own ▸ pageName_ne_dots page.state
      have later : ((documents ++ [document]).map Document.name ++
          pages.map fun page => Job.pageName pageEnding page.state).Nodup := by
        rw [List.map_append, List.map_singleton, own]
        exact distinct
      refine (Attempts.andThen (attempts_write document proper new) fun _ => ?_) world stands
      refine (ih later).weaken (fun _ world => ?_) fun _ => id
      rintro ⟨written, paired, stands⟩
      exact ⟨document :: written, .cons rendered paired, by rwa [List.append_cons]⟩

theorem nodup_pages {list : List Play.Page} (expanded : job.pages pageEnding = .ok list) :
    (titleName :: stylesheet :: list.map fun page => Job.pageName pageEnding page.state).Nodup := by
  have whole := nodup_names (Job.states_of_pages expanded).2
  rwa [List.map_map] at whole

/-- A site of the packaged templates, without images, is its title page, the style sheet and the pages of
the story. -/
theorem attempts_publish (usual : job.templates = {}) (noImages : job.imageDirectory = none) :
    Attempts (Stands job.output place []) (publish job)
      (fun _ world => ∃ title list written,
        job.titlePage PageTemplates.packaged pageEnding = .ok title ∧
        job.pages pageEnding = .ok list ∧
        List.Forall₂ (fun page document =>
          job.document PageTemplates.packaged pageEnding page = .ok document) list written ∧
        Stands job.output place
          (⟨titleName, title⟩ :: ⟨stylesheet, PageTemplates.packaged.styles⟩ :: written) world)
      fun _ => True := by
  have packaged : job.pageTemplates = .ok PageTemplates.packaged := by
    unfold Job.pageTemplates
    rw [usual]
    rfl
  have there : Attempts
      (fun tree => tree.WellFormed ∧ IsListed job.output place ([].map Document.file) tree)
      (makeAllDirectories true job.output)
      (fun _ => IsListed job.output place ([].map Document.file)) fun _ => True := by
    rintro tree ⟨_, listed⟩
    change ifGiven _ _ (makeDirectories true job.output tree).1 (makeDirectories true job.output tree).2
    rw [makeDirectories_of_isDirectory (isDirectory_iff.mpr ⟨place, listed.leads⟩)]
    exact listed
  unfold publish
  rw [packaged]
  refine Attempts.andThen ((IsLogging.attempts_onFiles isSafe_makeAllDirectories there).weaken
    (fun _ _ => id) fun _ _ => trivial) fun _ => ?_
  refine Attempts.andThen (Attempts.ofExcept fun _ _ => trivial) ?_
  rintro templates world ⟨given, stands⟩
  cases given
  refine (Attempts.andThen (Attempts.ofExcept fun _ _ => trivial) ?_) world stands
  rintro list world ⟨expanded, stands⟩
  have distinct := nodup_pages expanded
  refine (Attempts.andThen ((Keeps.lift (IsLogging.keeps_emit isApart_listed.allowsAppending _)).attempts
    fun _ _ => trivial) fun _ => ?_) world stands
  refine Attempts.andThen (Attempts.ofExcept fun _ _ => trivial) ?_
  rintro title world ⟨titled, stands⟩
  have ofTitle : titleName ≠ ['.', '.'] := by decide
  have ofStyles : stylesheet ≠ ['.', '.'] ∧ stylesheet ∉ [titleName] := by decide
  refine (Attempts.andThen (attempts_write ⟨titleName, title⟩ ofTitle List.not_mem_nil) fun _ => ?_)
    world stands
  refine Attempts.andThen (attempts_write ⟨stylesheet, PageTemplates.packaged.styles⟩ ofStyles.1
    ofStyles.2) fun _ => ?_
  refine Attempts.andThen (attempts_writePages distinct) fun _ => ?_
  rw [noImages]
  refine Attempts.pure fun world ⟨written, paired, stands⟩ => ?_
  exact ⟨title, list, written, titled, expanded, paired, stands⟩

end Site

end Gamebook.Publish
