import Gamebook.Proofs.Publish.Images
import Gamebook.Proofs.Run.Rendered

/-!
How a run builds a site: its directory is made where nothing was, the documents are written there, and then the
images are copied below it.
-/

namespace Gamebook.Run

open Gamebook.Text Gamebook.Files Gamebook.Files.FileTree Gamebook.Publish

variable {surroundings : Surroundings} {words : List Text} {world before published : World} {config : Config}
  {outcome : Outcome} {settings : Settings} {path output images : Path} {base place : Location}
  {document : Document} {content : Content} {names : List Text}

/-- The paths among the settings are those of texts. -/
structure Settings.AreRead (settings : Settings) : Prop where
  home : settings.home.IsRead
  logPath : ∀ path, settings.logPath = some path → path.IsRead

theorem isRead_usualOutput {format : Text} (read : settings.AreRead)
    (usual : Config.usualOutput settings format = some output) : output.IsRead := by
  unfold Config.usualOutput at usual
  split at usual
  · cases usual
    intro part member
    rcases List.mem_append.mp member with above | last
    · exact read.home part above
    · exact List.mem_singleton.mp last ▸ (by decide : "html".toList ≠ [] ∧ '/' ∉ "html".toList)
  · split at usual
    · cases usual
      exact Path.isRead_ofText _
    · cases usual

theorem isRead_output (read : settings.AreRead)
    (asked : Config.resolve settings words = .ok (.run config)) (given : config.output = some output) :
    output.IsRead := by
  obtain ⟨options, formed⟩ := exists_ofOptions_of_resolve asked
  unfold Config.ofOptions at formed
  dsimp only at formed
  split at formed
  · rw [(eq_of_checked (mapError_eq_ok.mp formed)).1] at given
    cases given
  · split at formed
    · rw [(eq_of_checked (mapError_eq_ok.mp formed)).1] at given
      dsimp only at given
      split at given
      · cases given
        exact Path.isRead_ofText _
      · exact isRead_usualOutput read given
    · cases formed

theorem IsPrepared.isLint_eq_false {ready : World} (sets : IsPrepared surroundings words world config ready)
    (made : config.format = Config.htmlFormat ∨ config.format = Config.epubFormat) : config.isLint = false := by
  simp [Config.isLint, (renders_of_resolve sets.asked made).1]

/-- A run that renders is prepared with its images below a directory. -/
theorem IsPrepared.exists_images {ready : World} (sets : IsPrepared surroundings words world config ready)
    (made : config.format = Config.htmlFormat ∨ config.format = Config.epubFormat)
    (given : config.imageDirectory = some images) :
    ∃ base, ready.files.find images = .ok (.taken base .directory) :=
  isDirectory_iff.mp (sets.images (sets.isLint_eq_false made) given)

/-- It is prepared with its templates in a directory, too. -/
theorem IsPrepared.exists_templates {ready : World} (sets : IsPrepared surroundings words world config ready)
    (made : config.format = Config.htmlFormat ∨ config.format = Config.epubFormat)
    (given : config.templateDirectory = some path) :
    ∃ base, ready.files.find path = .ok (.taken base .directory) :=
  isDirectory_iff.mp (sets.templates (sets.isLint_eq_false made) given)

/-- No log file stands where a site is made. -/
theorem World.IsSound.not_prefix_of_logsTo {location : Location} (sound : world.IsSound)
    (fresh : world.files.entry? place = none) (logged : world.LogsTo location) : ¬ place <+: location := by
  obtain ⟨path, content, _, found⟩ := logged
  exact sound.wellFormed.outside_of_free fresh (sound.wellFormed.holds_find found)

/-- A new directory stays empty as long as only log files are written elsewhere. -/
theorem World.OpensWays.isListed (opened : before.OpensWays [] published) (sound : before.IsSound)
    (leads : before.files.find output = .ok (.taken place .directory))
    (nothing : ∀ names, names ≠ [] → before.files.entry? (place ++ names) = none)
    (apart : ∀ location, before.LogsTo location → ¬ place <+: location) :
    IsListed output place [] published.files where
  leads := opened.preserves.find_directory sound.wellFormed leads
  holds := by
    intro names entry nonempty
    have still : FileTree.entry? published.files (place ++ names) = none := by
      rcases opened.files.held.entry (place ++ names) with same | ⟨logged, _⟩ | ⟨⟨path, member, _⟩, _⟩
      · exact same.trans (nothing names nonempty)
      · exact absurd (List.prefix_append place names) (apart _ logged)
      · contradiction
    simp [still]

namespace SiteCourse

variable (course : SiteCourse surroundings words world config)

theorem opensWays : FileTree.OpensWays (fun _ => False) [course.output] course.told.files
    course.start.files := opensWays_of_made course.keepsTold.isSound.wellFormed course.directories

theorem logsTo_eq : course.start.LogsTo = course.ready.LogsTo :=
  (course.keepsTold.isSound.logsTo_eq course.logging (ChangesOnly.preserves course.opensWays)).trans
    (course.keepsTold.logsTo_eq course.sets.sound)

/-- The directory of the site is made without new names but those of the output. -/
theorem isNamed (named : world.files.IsNamed) (read : surroundings.settings.AreRead) :
    course.start.files.IsNamed := by
  have told := course.keepsTold.isNamed course.sets.sound (course.sets.named named read.logPath)
    (List.forall_mem_nil _)
  refine told.changed course.opensWays (fun _ => False.elim) ?_
  intro location opened
  obtain ⟨way, member, onWay⟩ := opened
  obtain rfl := List.mem_singleton.mp member
  refine onWay.isFileName ?_ (isRead_output read course.sets.asked course.asOutput)
  rw [(ChangesOnly.preserves course.opensWays).workingDirectory]
  exact told.workingDirectory course.keepsTold.isSound.wellFormed

end SiteCourse

/-- How a run builds a site: what it writes, and where. The place is free when the story has been read; the
documents are written from `listed` on, and the images copied when they are. -/
structure Building (surroundings : Surroundings) (words : List Text) (world : World) (config : Config)
    extends SiteCourse surroundings words world config where
  templates : Template.PageTemplates
  pages : List Play.Page
  documents : List Document
  place : Location
  listed : World
  written : FileTree
  html : config.format = Config.htmlFormat
  fresh : told.files.entry? place = none
  documentsOf : Site.AreDocumentsOf (surroundings.job config checked.story output overrides) templates pages
    documents
  keepsListed : start.OpensWays [] listed
  isListed : IsListed output place [] listed.files
  writes : Site.Writes output documents listed.files written
  onlyFiles : published = { listed with files := published.files }
  uncopied : config.imageDirectory = none → published.files = written
  copies : ∀ images, config.imageDirectory = some images → ∃ paths,
    copyBelow images (output.child Site.imageDirectory) written = (.ok paths, published.files)

/-- A run that has rendered a site has built it. -/
theorem exists_building_of_run (sound : world.IsSound)
    (asked : Config.resolve surroundings.settings words = .ok (.run config))
    (html : config.format = Config.htmlFormat) (done : (run surroundings words world).1 = .ok outcome)
    (rendered : outcome.ending = .rendered) : Nonempty (Building surroundings words world config) := by
  obtain ⟨course⟩ := of_run_site sound asked html done rendered
  have told := course.keepsTold
  obtain ⟨place, fresh, site, nothing⟩ := IsSite.of_makeDirectories told.isSound.wellFormed course.directories
  have apart : ∀ location, course.start.LogsTo location → ¬ place <+: location := by
    intro location logged
    rw [course.logsTo_eq, ← told.logsTo_eq course.sets.sound] at logged
    exact told.isSound.not_prefix_of_logsTo fresh logged
  have there : course.before.files.isDirectory course.output = true := isDirectory_iff.mpr
    ⟨place, course.keepsBefore.preserves.find_directory course.sound.wellFormed site.leads⟩
  obtain ⟨templates, pages, documents, files, documentsOf, writes, whole, uncopied, copies⟩ :=
    Site.of_publish there course.publishes
  have opened : course.start.OpensWays [] (course.before.emit ((surroundings.job config
      course.checked.story course.output course.overrides).expansionRecord Site.logger "Expanded" pages)) :=
    keeps_emit_ways _ course.before course.keepsBefore
  exact ⟨⟨course, templates, pages, documents, place, _, files, html, fresh, documentsOf, opened,
    opened.isListed course.sound site.leads nothing apart, writes, whole, uncopied, copies⟩⟩

namespace Building

variable (building : Building surroundings words world config)

/-- A directory that was there when the story was to be read is there when the documents are written. -/
theorem find_listed (leads : building.ready.files.find path = .ok (.taken base .directory)) :
    building.listed.files.find path = .ok (.taken base .directory) := by
  have told := building.keepsTold
  have leads := told.preserves.find_directory building.sets.sound.wellFormed leads
  have leads := (ChangesOnly.preserves building.opensWays).find_directory told.isSound.wellFormed leads
  exact building.keepsListed.preserves.find_directory building.sound.wellFormed leads

/-- What lies outside its place is older than the site, unless it is a log file. -/
theorem file_listed_iff {location : Location} (notLogged : ¬ building.ready.LogsTo location) :
    building.listed.files.entry? location = some (.file content) ↔
      building.ready.files.entry? location = some (.file content) := by
  refine (building.keepsListed.file_iff (building.logsTo_eq.symm ▸ notLogged)).trans ?_
  exact (ChangesOnly.file_iff building.opensWays id).trans (building.keepsTold.file_iff notLogged)

variable (named : world.files.IsNamed) (read : surroundings.settings.AreRead)

include named read

theorem isNamed_listed : building.listed.files.IsNamed :=
  building.keepsListed.isNamed building.sound (building.isNamed named read) (List.forall_mem_nil _)

/-- The site is built in its place, and its documents stay there as they were written. -/
theorem changes : building.published.files.WellFormed ∧
    PreservesOutside (building.place <+: ·) building.listed.files building.published.files ∧
    ∀ document ∈ building.documents, building.published.files.entry? (building.place ++ [document.name]) =
      some (.file (.ofText document.content)) := by
  have wellFormed := building.keepsListed.isSound.wellFormed
  have names := building.isNamed_listed named read
  obtain ⟨writtenWellFormed, -, holds, free, written⟩ :=
    building.writes.isReady building.documentsOf wellFormed names building.isListed
  have there : ∀ document ∈ building.documents,
      building.written.entry? (building.place ++ [document.name]) = some (.file (.ofText document.content)) :=
    fun document member => (holds.holds _ _ (List.cons_ne_nil _ _)).mpr
      ⟨document.file, List.mem_map_of_mem member, rfl, rfl⟩
  cases given : config.imageDirectory with
  | none =>
      rw [building.uncopied given]
      exact ⟨writtenWellFormed, written.preserves, there⟩
  | some images =>
      obtain ⟨paths, copied⟩ := building.copies images given
      obtain ⟨base, leads⟩ := building.sets.exists_images (.inl building.html) given
      obtain ⟨-, copying⟩ := building.writes.isCopying building.documentsOf wellFormed names building.isListed
        (building.find_listed leads) copied
      refine ⟨copying.wellFormed,
        written.preserves.trans ((copying.preserves writtenWellFormed free).weaken nofun),
        fun document member => ?_⟩
      have differs := (building.documentsOf.isFileName (List.mem_map_of_mem member)).2.1
      exact (copying.entry?_beside differs).trans (there document member)

theorem isSound : building.published.IsSound := by
  obtain ⟨wellFormed, preserved, -⟩ := building.changes named read
  rw [building.onlyFiles]
  exact building.keepsListed.isSound.withFiles wellFormed preserved

theorem logsTo_published : building.published.LogsTo = building.ready.LogsTo := by
  have same : building.published.logging = building.listed.logging :=
    (congrArg World.logging building.onlyFiles).trans rfl
  rw [building.keepsListed.isSound.logsTo_eq same (building.changes named read).2.1,
    building.keepsListed.logsTo_eq building.sound, building.logsTo_eq]

/-- What is told at the end leaves the site as it is. -/
theorem ended : building.published.OpensWays [] (run surroundings words world).2 := by
  rw [building.ends]
  exact keeps_report_ways .log "Done." building.published (.refl [] (building.isSound named read))

theorem file_ended_iff : (run surroundings words world).2.files.entry? (building.place ++ names) =
    some (.file content) ↔
      building.published.files.entry? (building.place ++ names) = some (.file content) := by
  refine (building.ended named read).file_iff fun logged => ?_
  rw [building.logsTo_published named read] at logged
  exact building.sets.sound.not_prefix_of_logsTo (building.keepsTold.preserves.free_before building.fresh)
    logged (List.prefix_append _ _)

end Building

end Gamebook.Run
