import Gamebook.Proofs.Run.Binding
import Gamebook.Proofs.Run.Building

/-!
The images that a run has packaged are those that lay below their directory before the run. Log files are
apart from that, and so is a site or a book that is itself written below that directory.
-/

namespace Gamebook.Run

open Gamebook.Text Gamebook.Files Gamebook.Files.FileTree Gamebook.Publish

variable {surroundings : Surroundings} {words : List Text} {world before published : World} {config : Config}
  {outcome : Outcome} {settings : Settings} {output images : Path} {base place : Location}
  {names : List Text} {content : Content}

/-- A site holds this image under these names. -/
def HoldsSiteImage (tree : FileTree) (place : Location) (names : List Text) (data : ByteArray) : Prop :=
  ∃ content, tree.entry? (place ++ Site.imageDirectory :: names) = some (.file content) ∧
    content.toBytes = data

/-- A book holds this image under these names. -/
def HoldsBookImage (members : List Member) (names : List Text) (data : ByteArray) : Prop :=
  (∀ name ∈ names, IsFileName name) ∧
    ∃ member ∈ members, member.name = Book.inContent (Book.imageName names) ∧ member.data = data

/-- What has been packaged as images, by the names below their directory: the files below the directory of
images of a site, or the members of a book below that name. -/
inductive World.Packages (world : World) (output : Path) (place : Location) :
    (List Text → ByteArray → Prop) → Text → Prop
  | site (leads : world.files.find output = .ok (.taken place .directory)) :
      Packages world output place (HoldsSiteImage world.files place) Config.htmlFormat
  | book {members : List Member} (archive : LeadsToArchive world.LogsTo output place members world.files)
      (named : ∀ member ∈ members, Book.imagesName <+: member.name → ∃ names,
        (∀ name ∈ names, IsFileName name) ∧ member.name = Book.inContent (Book.imageName names)) :
      Packages world output place (HoldsBookImage members) Config.epubFormat

/-- The images that have been packaged are those that were there before, except where log files or what
has been published stand among them. A site copies its own documents if they are there; a book is among its
images only if it has taken the place of one. -/
structure IsPackaged (config : Config) (images : Path) (before after : World) (output : Path)
    (base place : Location) (packaged : List Text → ByteArray → Prop) : Prop where
  named : config.output = some output
  leads : after.files.find images = .ok (.taken base .directory)
  packages : after.Packages output place packaged config.format
  old (names : List Text) (data : ByteArray) : ¬ after.LogsTo (base ++ names) → ¬ place <+: base ++ names →
    (packaged names data ↔
      ∃ content, before.files.entry? (base ++ names) = some (.file content) ∧ content.toBytes = data)
  ofSite (names : List Text) (data : ByteArray) : config.format = Config.htmlFormat →
    place <+: base ++ names → (packaged names data ↔ ∃ name content, base ++ names = place ++ [name] ∧
      after.files.entry? (place ++ [name]) = some (.file content) ∧ content.toBytes = data)
  ofBook (names : List Text) (data : ByteArray) : config.format = Config.epubFormat →
    ¬ after.LogsTo (base ++ names) → packaged names data →
      ∃ content, before.files.entry? (base ++ names) = some (.file content)

namespace Binding

variable (binding : Binding surroundings words world config) (named : binding.listed.files.IsNamed)
  (given : config.imageDirectory = some images)
  (leads : binding.listed.files.find images = .ok (.taken base .directory))

include named given leads

/-- What a book has packed as an image was listed below their directory. -/
theorem exists_image {member : Member} (inside : member ∈ binding.archived)
    (below : Book.imagesName <+: member.name) :
    ∃ names content, (∀ name ∈ names, IsFileName name) ∧
      binding.listed.files.entry? (base ++ names) = some (.file content) ∧
      member.name = Book.inContent (Book.imageName names) := by
  have listing : Book.imagesOf binding.listed.files config.imageDirectory = .ok binding.found := binding.images
  rw [given] at listing
  obtain ⟨names, content, proper, there, _, packedAs⟩ := binding.documentsOf.exists_image
    binding.keepsListed.isSound.wellFormed named leads listing binding.read inside below
  obtain ⟨_, _, rfl⟩ := Book.imageMember_eq_ok.mp packedAs
  exact ⟨names, content, proper, there, rfl⟩

/-- What was listed is packed as it was, but where the book itself stands. -/
theorem holdsBookImage_iff {data : ByteArray} (apart : base ++ names ≠ binding.place) :
    HoldsBookImage binding.archived names data ↔
      ∃ content, binding.listed.files.entry? (base ++ names) = some (.file content) ∧
        content.toBytes = data := by
  have listing : Book.imagesOf binding.listed.files config.imageDirectory = .ok binding.found := binding.images
  rw [given] at listing
  have packs (proper : ∀ name ∈ names, IsFileName name) :
      (∃ member ∈ binding.archived,
        member.name = Book.inContent (Book.imageName names) ∧ member.data = data) ↔
        ∃ content, binding.listed.files.entry? (base ++ names) = some (.file content) ∧
          content.toBytes = data :=
    binding.documentsOf.mem_images binding.keepsListed.isSound.wellFormed named leads listing
      binding.wellFormed binding.ways binding.read proper apart
  constructor
  · rintro ⟨proper, inside⟩
    exact (packs proper).mp inside
  · rintro ⟨content, there, same⟩
    have proper : ∀ name ∈ names, IsFileName name := fun name member =>
      named _ _ there name (List.mem_append_right base member)
    exact ⟨proper, (packs proper).mpr ⟨content, there, same⟩⟩

end Binding

/-- The images of a book are those that were there before the run. -/
theorem isPackaged_book (sound : world.IsSound)
    (asked : Config.resolve surroundings.settings words = .ok (.run config))
    (book : config.format = Config.epubFormat) (given : config.imageDirectory = some images)
    (named : world.files.IsNamed) (read : surroundings.settings.AreRead)
    (done : (run surroundings words world).1 = .ok outcome) (rendered : outcome.ending = .rendered) :
    ∃ output base place packaged,
      IsPackaged config images world (run surroundings words world).2 output base place packaged := by
  obtain ⟨binding, logging, preserved, archive⟩ := exists_binding_of_run sound asked book done rendered
  have sets := binding.sets
  have told := binding.keepsListed
  have names := told.isNamed sets.sound (sets.named named read.logPath) (List.forall_mem_nil _)
  have wellFormed := told.isSound.wellFormed
  obtain ⟨base, found⟩ := sets.exists_images (.inr book) given
  have leads := told.preserves.find_directory sets.sound.wellFormed found
  have before : ∀ {names content}, ¬ binding.ready.LogsTo (base ++ names) →
      (binding.listed.files.entry? (base ++ names) = some (.file content) ↔
        world.files.entry? (base ++ names) = some (.file content)) :=
    fun notLogged => (told.file_iff notLogged).trans (ChangesOnly.file_iff sets.opened notLogged)
  have packages : (run surroundings words world).2.Packages binding.output binding.place
      (HoldsBookImage binding.archived) config.format := by
    rw [book]
    refine .book archive fun member inside below => ?_
    obtain ⟨inner, _, proper, _, own⟩ := binding.exists_image names given leads inside below
    exact ⟨inner, proper, own⟩
  refine ⟨binding.output, base, binding.place, HoldsBookImage binding.archived, binding.asOutput,
    preserved.find_directory wellFormed leads, packages, fun inner data notLogged outside => ?_,
    fun inner data html => ?_, fun inner data _ notLogged => ?_⟩
  · rw [logging, told.logsTo_eq sets.sound] at notLogged
    have apart : base ++ inner ≠ binding.place := fun same => outside (same ▸ List.prefix_rfl)
    exact (binding.holdsBookImage_iff names given leads apart).trans
      (exists_congr fun content => and_congr_left fun _ => before notLogged)
  · rw [book] at html
    exact absurd html (by decide)
  · rw [logging, told.logsTo_eq sets.sound] at notLogged
    rintro ⟨proper, member, inside, ofName, _⟩
    obtain ⟨others, content, otherNames, there, same⟩ := binding.exists_image names given leads inside
      (ofName ▸ List.prefix_append _ _)
    obtain rfl := Book.imageName_injective otherNames proper
      (Book.inContent_injective (same.symm.trans ofName))
    exact ⟨content, (before notLogged).mp there⟩

/-- What a run that has rendered a site has come to: nothing stood at its place, and the images were copied when
its documents had been written. -/
structure IsBuilt (images output : Path) (base place : Location) (ready listed published : World) : Prop where
  sound : published.IsSound
  fresh : ready.files.entry? place = none
  before {location : Location} {content : Content} : ¬ ready.LogsTo location →
    (listed.files.entry? location = some (.file content) ↔
      ready.files.entry? location = some (.file content))
  copied : Site.HoldsImages base place listed.files published.files
  logging : published.LogsTo = ready.LogsTo
  leads : published.files.find output = .ok (.taken place .directory)
  images : published.files.find images = .ok (.taken base .directory)

theorem isBuilt_of_run (sound : world.IsSound)
    (asked : Config.resolve surroundings.settings words = .ok (.run config))
    (html : config.format = Config.htmlFormat) (given : config.imageDirectory = some images)
    (named : world.files.IsNamed) (read : surroundings.settings.AreRead)
    (done : (run surroundings words world).1 = .ok outcome) (rendered : outcome.ending = .rendered) :
    ∃ (building : Building surroundings words world config) (base : Location),
      IsBuilt images building.output base building.place building.ready building.listed building.published := by
  obtain ⟨building⟩ := exists_building_of_run sound asked html done rendered
  have listedSound := building.keepsListed.isSound
  obtain ⟨paths, copied⟩ := building.copies images given
  obtain ⟨base, leads⟩ := building.sets.exists_images (.inl html) given
  have leads := building.find_listed leads
  have holds := building.writes.holdsImages building.documentsOf listedSound.wellFormed
    (building.isNamed_listed named read) building.isListed leads copied
  exact ⟨building, base, building.isSound named read, building.keepsTold.preserves.free_before building.fresh,
    building.file_listed_iff, holds, building.logsTo_published named read,
    holds.changes.find_directory listedSound.wellFormed building.isListed.leads,
    holds.changes.find_directory listedSound.wellFormed leads⟩

/-- The images of a site are those that were there before the run, and its own documents if they are there. -/
theorem isPackaged_site (sound : world.IsSound)
    (asked : Config.resolve surroundings.settings words = .ok (.run config))
    (html : config.format = Config.htmlFormat) (given : config.imageDirectory = some images)
    (named : world.files.IsNamed) (read : surroundings.settings.AreRead)
    (done : (run surroundings words world).1 = .ok outcome) (rendered : outcome.ending = .rendered) :
    ∃ output base place packaged,
      IsPackaged config images world (run surroundings words world).2 output base place packaged := by
  obtain ⟨building, base, built⟩ := isBuilt_of_run sound asked html given named read done rendered
  have ended := building.ended named read
  have wellFormed := built.sound.wellFormed
  have still {names : List Text} {content : Content} : FileTree.entry? (run surroundings words world).2.files
      (building.place ++ names) = some (.file content) ↔
        building.published.files.entry? (building.place ++ names) = some (.file content) :=
    building.file_ended_iff named read
  refine ⟨building.output, base, building.place,
    HoldsSiteImage (run surroundings words world).2.files building.place, building.asOutput,
    ended.preserves.find_directory wellFormed built.images, ?_, fun names data notLogged outside => ?_,
    fun names data _ inside => ?_, fun names data epub => ?_⟩
  · rw [html]
    exact .site (ended.preserves.find_directory wellFormed built.leads)
  · rw [ended.logsTo_eq built.sound, built.logging] at notLogged
    refine exists_congr fun content => and_congr_left fun _ => ?_
    calc
      _ ↔ building.published.files.entry? (building.place ++ Site.imageDirectory :: names) =
          some (.file content) := still
      _ ↔ building.listed.files.entry? (base ++ names) = some (.file content) := built.copied.old outside
      _ ↔ building.ready.files.entry? (base ++ names) = some (.file content) := built.before notLogged
      _ ↔ world.files.entry? (base ++ names) = some (.file content) :=
        ChangesOnly.file_iff building.sets.opened notLogged
  · obtain ⟨rest, same⟩ := inside
    constructor
    · rintro ⟨content, there, ofData⟩
      obtain ⟨name, rfl, own⟩ := (built.copied.own same.symm).mp (still.mp there)
      exact ⟨name, content, same.symm, still.mpr own, ofData⟩
    · rintro ⟨name, content, isName, own, ofData⟩
      have last : rest = [name] := List.append_cancel_left (same.trans isName)
      exact ⟨content, still.mpr ((built.copied.own same.symm).mpr ⟨name, last, still.mp own⟩), ofData⟩
  · rw [html] at epub
    exact absurd epub (by decide)

/-- The site is to be made below the directory of its images. -/
def nestedWords : List Text :=
  ["--format", "html", "--in", "story.md", "--out", "pics/site", "--images", "pics"]

def nestedConfig : Config := { siteConfig with output := some "pics/site", imageDirectory := some "pics" }

theorem run_nested_eq_judge : (run usualSurroundings nestedWords).run { files := picturedFiles } =
    (liftM (judge usualSurroundings nestedConfig ⟨shortStory, [], []⟩) : Action Escape Outcome).run
      ((World.resolved { files := picturedFiles } usualSurroundings nestedConfig).report .log
        "Parsing story...") := by
  have passed : Preflight.check picturedFiles nestedConfig = ([], .ok none) := by decide +kernel
  have read : picturedFiles.readMarkedText "story.md" = .ok shortSource := by decide +kernel
  exact (run_eq_runConfig rfl rfl).trans
    (runConfig_eq_judge rfl rfl passed read ofText_shortSource)

theorem run_nested_rendered :
    (run usualSurroundings nestedWords { files := picturedFiles }).1 = .ok ⟨.rendered, "", false⟩ := by
  rw [show run usualSurroundings nestedWords { files := picturedFiles } = _ from run_nested_eq_judge]
  decide +kernel

end Gamebook.Run
