import Gamebook.Proofs.Files.Changing
import Gamebook.Proofs.Publish.Contents
import Gamebook.Proofs.Run.Opening

/-!
What publishing a site does step by step: it writes the title page, the style sheet and the pages one behind
the other, and then copies the images.
-/

namespace Gamebook.Publish

open Gamebook.Text Gamebook.Files Gamebook.Files.FileTree Gamebook.Run Gamebook.Template

variable {job : Job} {output : Path} {place : Location} {document : Document}
  {documents : List Document} {templates : PageTemplates} {pages : List Play.Page}
  {world final : World} {tree next : FileTree} {files : List (Text × Content)}

namespace Site

/-- These documents are written to files of a directory, one behind the other. -/
inductive Writes (output : Path) : List Document → FileTree → FileTree → Prop
  | nil (tree : FileTree) : Writes output [] tree tree
  | cons {document : Document} {documents : List Document} {tree next last : FileTree}
      (first : tree.writeFile (output.child document.name) (.ofText document.content) = .ok next)
      (rest : Writes output documents next last) : Writes output (document :: documents) tree last

theorem of_write {name content : Text} (done : (write job name content).run world = (.ok (), final)) :
    ∃ files, world.files.writeFile (job.output.child name) (.ofText content) = .ok files ∧
      final = { world with files } := by
  obtain ⟨files, written, same⟩ := onFiles_eq_ok.mp done
  exact ⟨files, writeFile_done.mp written, same⟩

theorem of_writePages (done : (writePages job templates pages).run world = (.ok (), final)) :
    ∃ documents files, List.Forall₂ (fun page document =>
        job.document templates pageEnding page = .ok document) pages documents ∧
      Writes job.output documents world.files files ∧ final = { world with files } := by
  induction pages generalizing world with
  | nil =>
      cases done
      exact ⟨[], _, .nil, .nil _, rfl⟩
  | cons page pages ih =>
      obtain ⟨document, _, given, rest⟩ := ok_of_andThen done
      obtain ⟨rendered, rfl⟩ := ofExcept_eq_ok.mp given
      obtain ⟨_, between, first, rest⟩ := ok_of_andThen rest
      obtain ⟨next, written, rfl⟩ := of_write first
      obtain ⟨documents, files, paired, others, same⟩ := ih rest
      exact ⟨document :: documents, files, .cons rendered paired, .cons written others, same⟩

/-- The documents of a directory are added to the files that it holds, and nothing else changes. -/
theorem Writes.isListed (writes : Writes output documents tree next) (wellFormed : tree.WellFormed)
    (listed : IsListed output place files tree)
    (proper : ∀ document ∈ documents, document.name ≠ ['.', '.'])
    (distinct : (files.map Prod.fst ++ documents.map Document.name).Nodup) :
    next.WellFormed ∧ IsListed output place (files ++ documents.map Document.file) next ∧
      ChangesOnly (fun location => ∃ document ∈ documents, location = place ++ [document.name])
        (fun _ => False) tree next := by
  induction writes generalizing files with
  | nil tree => exact ⟨wellFormed, by rwa [List.map_nil, List.append_nil], .refl _ _ _⟩
  | @cons document documents tree middle last first rest ih =>
      have own := proper document List.mem_cons_self
      rw [List.map_cons, List.append_cons] at distinct
      have new : document.name ∉ files.map Prod.fst := fun member =>
        (List.nodup_append.mp (List.nodup_append.mp distinct).1).2.2 _ member _
          (List.mem_singleton_self _) rfl
      have grown := listed.writeFile wellFormed own new first
      obtain ⟨spot, found, _, rfl, room, _⟩ := wellFormed.exists_put_of_writeFile first
      have at_name : spot.location = place ++ [document.name] :=
        location_find_below listed.leads (areBelow_singleton.mpr own) found
      obtain ⟨still, whole, changed⟩ := ih (wellFormed.put room) grown
        (fun other member => proper other (.tail _ member)) (by simpa [Document.file] using distinct)
      refine ⟨still, by simpa [Document.file] using whole, ?_⟩
      exact ((ChangesOnly.put_file room).weaken
          (fun other same => ⟨document, List.mem_cons_self, same.trans at_name⟩) fun _ => id).trans
        (changed.weaken (fun other => Exists.imp fun later => And.imp_left (List.mem_cons_of_mem _))
          fun _ => id)

/-- What is written to a site: the title page, the style sheet and a page for each state. -/
structure AreDocumentsOf (job : Job) (templates : PageTemplates) (pages : List Play.Page)
    (documents : List Document) : Prop where
  loaded : job.pageTemplates = .ok templates
  expanded : job.pages pageEnding = .ok pages
  rendered : ∃ title rest, documents =
      ⟨titleName, title⟩ :: ⟨stylesheet, templates.styles⟩ :: rest ∧
    job.titlePage templates pageEnding = .ok title ∧
    List.Forall₂ (fun page document => job.document templates pageEnding page = .ok document) pages rest

theorem AreDocumentsOf.names (documents_of : AreDocumentsOf job templates pages documents) :
    documents.map Document.name = titleName :: stylesheet ::
      pages.map fun page => Job.pageName pageEnding page.state := by
  obtain ⟨title, rest, rfl, _, paired⟩ := documents_of.rendered
  rw [List.map_cons, List.map_cons, ← map_eq_of_forall₂ paired fun page document rendered =>
    (Job.name_of_document rendered).symm]

theorem AreDocumentsOf.nodup (documents_of : AreDocumentsOf job templates pages documents) :
    (documents.map Document.name).Nodup := by
  rw [documents_of.names]
  exact nodup_pages documents_of.expanded

/-- A site whose directory is there is published by writing its documents and copying its images. -/
theorem of_publish (there : world.files.isDirectory job.output = true)
    (done : (publish job).run world = (.ok (), final)) :
    ∃ templates pages documents files, AreDocumentsOf job templates pages documents ∧
      Writes job.output documents (world.emit (job.expansionRecord logger "Expanded" pages)).files files ∧
      final = { world.emit (job.expansionRecord logger "Expanded" pages) with files := final.files } ∧
      (job.imageDirectory = none → final.files = files) ∧
      ∀ images, job.imageDirectory = some images → ∃ paths,
        copyBelow images (job.output.child imageDirectory) files = (.ok paths, final.files) := by
  unfold publish at done
  obtain ⟨_, _, directories, done⟩ := ok_of_andThen done
  obtain ⟨made, none, same⟩ := onFiles_eq_ok.mp directories
  obtain rfl : world.files = made :=
    congrArg Prod.snd ((makeDirectories_of_isDirectory there).symm.trans none)
  subst same
  obtain ⟨templates, _, given, done⟩ := ok_of_andThen done
  obtain ⟨ofTemplates, rfl⟩ := ofExcept_eq_ok.mp given
  obtain ⟨pages, _, given, done⟩ := ok_of_andThen done
  obtain ⟨expanded, rfl⟩ := ofExcept_eq_ok.mp given
  obtain ⟨_, emitted, told, done⟩ := ok_of_andThen done
  obtain rfl : _ = emitted := congrArg Prod.snd told
  obtain ⟨title, _, given, done⟩ := ok_of_andThen done
  obtain ⟨titled, rfl⟩ := ofExcept_eq_ok.mp given
  obtain ⟨_, _, written, done⟩ := ok_of_andThen done
  obtain ⟨first, ofTitle, rfl⟩ := of_write written
  obtain ⟨_, _, written, done⟩ := ok_of_andThen done
  obtain ⟨second, ofStyles, rfl⟩ := of_write written
  obtain ⟨_, _, written, done⟩ := ok_of_andThen done
  obtain ⟨documents, files, paired, writes, rfl⟩ := of_writePages written
  refine ⟨templates, pages, ⟨titleName, title⟩ :: ⟨stylesheet, templates.styles⟩ :: documents, files,
    ⟨ofTemplates, expanded, title, documents, rfl, titled, paired⟩, .cons ofTitle (.cons ofStyles writes),
    ?_⟩
  cases given : job.imageDirectory with
  | none =>
      rw [given] at done
      cases done
      exact ⟨rfl, fun _ => rfl, nofun⟩
  | some images =>
      rw [given] at done
      obtain ⟨paths, _, copied, done⟩ := ok_of_andThen done
      cases done
      obtain ⟨last, onFiles, rfl⟩ := onFiles_eq_ok.mp copied
      refine ⟨rfl, nofun, fun other same => ⟨paths, ?_⟩⟩
      cases same
      exact onFiles

end Site

end Gamebook.Publish
