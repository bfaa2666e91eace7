import Gamebook.Proofs.Publish.Books
import Gamebook.Proofs.Run.Opening

/-!
What making a book does step by step, and what its archive holds.
-/

namespace Gamebook.Publish.Book

open Gamebook.Text Gamebook.Files Gamebook.Files.FileTree Gamebook.Run Gamebook.Template

variable {job : Job} {edition : Edition} {templates : PageTemplates} {pages : List Play.Page}
  {documents : List Document} {found : List Image} {world final : World} {tree : FileTree}

/-- What is packed into a book: the title page and a page for each state. -/
structure AreDocumentsOf (job : Job) (templates : PageTemplates) (pages : List Play.Page)
    (documents : List Document) : Prop where
  loaded : job.pageTemplates = .ok templates
  expanded : job.pages pageEnding = .ok pages
  rendered : ∃ title rest, documents = ⟨titleName, title⟩ :: rest ∧
    job.titlePage templates pageEnding = .ok title ∧
    List.Forall₂ (fun page document => job.document templates pageEnding page = .ok document) pages rest

/-- The files of a book while it is made: the directory above is made, the book is opened, the images are
read, and all is packed. -/
structure IsPacked (job : Job) (edition : Edition) (styles : Text) (documents : List Document)
    (images : List Image) (packed : List Member) (before opened after : FileTree) : Prop where
  listed : imagesOf before job.imageDirectory = .ok images
  starts : ∃ made, makeDirectories true job.output.parent before = (.ok (), made) ∧
    made.writeFile job.output (.archive ⟨[]⟩) = .ok opened
  read : images.mapM (imageMember opened) = .ok packed
  ends : opened.writeFile job.output (.archive ⟨members job edition styles documents images ++ packed⟩) =
    .ok after

/-- Besides the directories above a book, only the file at its place has changed, and it is the archive. -/
theorem IsPacked.changes {styles : Text} {packed : List Member} {before opened after : FileTree}
    (packs : IsPacked job edition styles documents found packed before opened after)
    (wellFormed : before.WellFormed) :
    ∃ place, FileTree.OpensWays (· = place) [job.output.parent] before opened ∧ opened.WellFormed ∧
      after.WellFormed ∧ ChangesOnly (· = place) (fun _ => False) opened after ∧
      opened.entry? place = some (.file (.archive ⟨[]⟩)) ∧
      after.find job.output = .ok (.taken place
        (.file (.archive ⟨members job edition styles documents found ++ packed⟩))) := by
  obtain ⟨made, above, started⟩ := packs.starts
  have added : before.AddsDirectories made := addsDirectories_of_made wellFormed above
  have onWays : FileTree.OpensWays (fun _ => False) [job.output.parent] before made :=
    opensWays_of_made wellFormed above
  obtain ⟨spot, _, target, rfl, room, _⟩ := added.wellFormed.exists_put_of_writeFile started
  have filled : (made.put spot.location (.file (.archive ⟨[]⟩))).WellFormed := added.wellFormed.put room
  obtain ⟨again, _, targetAgain, rfl, roomAgain, leadsAgain⟩ := filled.exists_put_of_writeFile packs.ends
  have same : spot.location = again.location :=
    Option.some.inj ((target?_put added.wellFormed target).symm.trans targetAgain)
  rw [← same] at roomAgain leadsAgain ⊢
  exact ⟨spot.location, (onWays.weaken (fun _ => False.elim) fun _ => id).put_file added.wellFormed room rfl, filled,
    filled.put roomAgain, ChangesOnly.put_file roomAgain, entry?_put_self room.ne_nil, leadsAgain⟩

theorem of_publish (done : (publish job edition).run world = (.ok (), final)) :
    ∃ templates pages documents images packed opened, AreDocumentsOf job templates pages documents ∧
      IsPacked job edition templates.styles documents images packed
        (world.emit (job.expansionRecord logger "Packaging" pages)).files opened final.files ∧
      final = { world.emit (job.expansionRecord logger "Packaging" pages) with files := final.files } := by
  unfold publish at done
  obtain ⟨templates, _, given, done⟩ := ok_of_andThen done
  obtain ⟨ofTemplates, rfl⟩ := ofExcept_eq_ok.mp given
  obtain ⟨pages, _, given, done⟩ := ok_of_andThen done
  obtain ⟨expanded, rfl⟩ := ofExcept_eq_ok.mp given
  obtain ⟨_, emitted, told, done⟩ := ok_of_andThen done
  obtain rfl : _ = emitted := congrArg Prod.snd told
  obtain ⟨title, _, given, done⟩ := ok_of_andThen done
  obtain ⟨titled, rfl⟩ := ofExcept_eq_ok.mp given
  obtain ⟨rest, _, given, done⟩ := ok_of_andThen done
  obtain ⟨paired, rfl⟩ := ofExcept_eq_ok.mp given
  obtain ⟨images, _, seen, done⟩ := ok_of_andThen done
  obtain ⟨_, looked, rfl⟩ := onFiles_eq_ok.mp seen
  obtain ⟨listed, rfl⟩ := inspect_eq_ok.mp looked
  obtain ⟨_, _, directories, done⟩ := ok_of_andThen done
  obtain ⟨made, above, rfl⟩ := onFiles_eq_ok.mp directories
  obtain ⟨_, _, started, done⟩ := ok_of_andThen done
  obtain ⟨opened, start, rfl⟩ := onFiles_eq_ok.mp started
  obtain ⟨packed, _, seen, done⟩ := ok_of_andThen done
  obtain ⟨_, looked, rfl⟩ := onFiles_eq_ok.mp seen
  obtain ⟨read, rfl⟩ := inspect_eq_ok.mp looked
  obtain ⟨files, ended, rfl⟩ := onFiles_eq_ok.mp done
  exact ⟨templates, pages, ⟨titleName, title⟩ :: rest, images, packed, opened,
    ⟨ofTemplates, expanded, title, rest, rfl, titled, forall₂_of_mapM_ok paired⟩,
    ⟨listed, ⟨made, above, writeFile_done.mp start⟩, read, writeFile_done.mp ended⟩, rfl⟩

end Gamebook.Publish.Book
