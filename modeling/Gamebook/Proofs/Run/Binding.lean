import Gamebook.Proofs.Publish.Members
import Gamebook.Proofs.Run.Rendered

/-!
A run that renders a book leaves an archive whose members, manifest and reading order agree.
-/

namespace Gamebook.Run

open Gamebook.Text Gamebook.Files Gamebook.Files.FileTree Gamebook.Publish

variable {surroundings : Surroundings} {words : List Text} {world : World} {config : Config}
  {outcome : Outcome} {path : Path} {members : List Member}

/-- An archive, perhaps with more behind it where records of the log are added. -/
def IsArchive (logged : Prop) (members : List Member) (content : Content) : Prop :=
  content = .archive ⟨members⟩ ∨ logged ∧ ∃ behind, content.toBytes = (Archive.mk members).toBytes ++ behind

theorem IsArchive.append {logged : Prop} {content : Content} (archive : IsArchive logged members content)
    (added : ByteArray) (inside : logged) : IsArchive logged members (.bytes (content.toBytes ++ added)) := by
  rcases archive with rfl | ⟨_, behind, same⟩
  · exact .inr ⟨inside, added, rfl⟩
  · exact .inr ⟨inside, behind ++ added, by rw [Content.toBytes, same, ByteArray.append_assoc]⟩

/-- The path leads to this place, where an archive of these members stands. -/
def LeadsToArchive (logged : Location → Prop) (path : Path) (place : Location) (members : List Member)
    (tree : FileTree) : Prop :=
  ∃ content, tree.find path = .ok (.taken place (.file content)) ∧ IsArchive (logged place) members content

theorem allowsAppending_leadsToArchive {logged : Location → Prop} {place : Location} :
    AllowsAppending logged (LeadsToArchive logged path place members) := by
  rintro tree location old added wellFormed there inside ⟨content, leads, archive⟩
  have room := wellFormed.isOpen_of_file there
  have stays := (@PreservesOutside.put_file _ _ (.bytes (old.toBytes ++ added)) room).find wellFormed leads
  have own := wellFormed.holds_find leads
  unfold LeadsToArchive
  rw [stays, spotAt, Spot.location]
  by_cases same : place = location
  · subst same
    cases own.symm.trans there
    refine ⟨_, ?_, archive.append added inside⟩
    rw [entry?_put_self room.ne_nil]
  · refine ⟨content, ?_, archive⟩
    rw [entry?_put_of_ne room.ne_nil same, own]

/-- Telling something leaves an archive what it is. -/
theorem World.IsSound.leadsToArchive_report {place : Location} (sound : world.IsSound)
    (leads : world.files.find path = .ok (.taken place (.file (.archive ⟨members⟩))))
    (channel : Channel) (message : String) :
    LeadsToArchive (world.report channel message).LogsTo path place members
      (world.report channel message).files := by
  have told : world.OpensWays [] (world.report channel message) :=
    keeps_report_ways channel message world (.refl [] sound)
  have before : LeadsToArchive world.LogsTo path place members world.files := ⟨_, leads, .inl rfl⟩
  have kept : IsLogging world.LogsTo (LeadsToArchive world.LogsTo path place members)
      (world.report channel message) :=
    IsLogging.keeps_report allowsAppending_leadsToArchive channel message world
      ⟨sound.wellFormed, sound.logsAt, before⟩
  rw [told.logsTo_eq sound]
  exact kept.held

/-- How a run binds a book: what it packs, and where. The images are listed in the world `listed`, and read from
the files `opened`, among which the place of the book is taken. -/
structure Binding (surroundings : Surroundings) (words : List Text) (world : World) (config : Config)
    extends BookCourse surroundings words world config where
  templates : Template.PageTemplates
  pages : List Play.Page
  documents : List Document
  found : List Book.Image
  packed : List Member
  listed : World
  opened : FileTree
  place : Location
  documentsOf : Book.AreDocumentsOf (surroundings.job config checked.story output overrides) templates pages
    documents
  keepsListed : ready.OpensWays [] listed
  images : Book.imagesOf listed.files config.imageDirectory = .ok found
  read : found.mapM (Book.imageMember opened) = .ok packed
  wellFormed : opened.WellFormed
  ways : FileTree.OpensWays (· = place) [output.parent] listed.files opened

/-- The members of the archive: those the book is made of, and the images behind them. -/
def Binding.archived (binding : Binding surroundings words world config) : List Member :=
  Book.members (surroundings.job config binding.checked.story binding.output binding.overrides)
    (surroundings.edition config binding.author) binding.templates.styles binding.documents binding.found ++
      binding.packed

/-- A run that has rendered a book has bound it, and leaves it where it was packed. -/
theorem exists_binding_of_run (sound : world.IsSound)
    (asked : Config.resolve surroundings.settings words = .ok (.run config))
    (book : config.format = Config.epubFormat) (done : (run surroundings words world).1 = .ok outcome)
    (rendered : outcome.ending = .rendered) :
    ∃ binding : Binding surroundings words world config,
      (run surroundings words world).2.LogsTo = binding.listed.LogsTo ∧
      PreservesOutside (fun _ => True) binding.listed.files (run surroundings words world).2.files ∧
      LeadsToArchive (run surroundings words world).2.LogsTo binding.output binding.place binding.archived
        (run surroundings words world).2.files := by
  obtain ⟨course⟩ := of_run_book sound asked book done rendered
  obtain ⟨templates, pages, documents, found, packed, opened, documentsOf, packs, same⟩ :=
    Book.of_publish course.publishes
  have keepsListed : course.ready.OpensWays [] (course.before.emit ((surroundings.job config
      course.checked.story course.output course.overrides).expansionRecord Book.logger "Packaging" pages)) :=
    keeps_emit_ways _ course.before course.keepsBefore
  have sound := keepsListed.isSound
  obtain ⟨place, ways, openedWellFormed, wellFormed, filled, _, leads⟩ := packs.changes sound.wellFormed
  have kept := (ChangesOnly.preserves ways).trans filled.preserves
  have publishedSound : course.published.IsSound := by
    rw [same]
    exact sound.withFiles wellFormed kept
  have ended : course.published.OpensWays [] (course.published.report .log "Done.") :=
    keeps_report_ways .log "Done." course.published (.refl [] publishedSound)
  refine ⟨⟨course, templates, pages, documents, found, packed, _, opened, place, documentsOf, keepsListed,
    packs.listed, packs.read, openedWellFormed, ways⟩, ?_, ?_,
    course.ends ▸ publishedSound.leadsToArchive_report leads .log "Done."⟩
  · rw [course.ends, ended.logsTo_eq publishedSound]
    exact sound.logsTo_eq ((congrArg World.logging same).trans rfl) kept
  · rw [course.ends]
    exact (kept.weaken fun _ _ => trivial).trans (ended.preserves.weaken fun _ _ => trivial)

def imagesName : Text := "pics"

/-- A directory with a story and an image whose name has to be escaped. -/
def picturedFiles : FileTree :=
  (shortFiles.put [imagesName] .directory).put [imagesName, "a&b.png"] (.file (.ofText "x"))

theorem wellFormed_picturedFiles : picturedFiles.WellFormed :=
  (wellFormed_shortFiles.put ⟨by decide, [], imagesName, rfl, rfl, by decide⟩).put
    ⟨by decide, [imagesName], "a&b.png".toList, rfl, rfl, by decide⟩

theorem isNamed_picturedFiles : picturedFiles.IsNamed :=
  ((isNamed_empty.put (by decide) (by decide)).put (by decide) (by decide)).put (by decide) (by decide)

def picturedWords : List Text := bookWords ++ ["--images".toList, imagesName]

def picturedConfig : Config := { bookConfig with imageDirectory := some "pics" }

end Gamebook.Run
