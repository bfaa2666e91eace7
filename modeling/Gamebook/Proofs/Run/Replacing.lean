import Gamebook.Proofs.Run.Binding
import Gamebook.Proofs.Run.Building
import Gamebook.Proofs.Run.Templates

/-!
The templates that a run takes are those that lay in their directory before the run, and what it has rendered is
rendered with them.
-/

namespace Gamebook.Run

open Gamebook.Text Gamebook.Files Gamebook.Files.FileTree Gamebook.Publish Gamebook.Template

variable {surroundings : Surroundings} {words : List Text} {world start next : World} {config : Config}
  {outcome : Outcome} {directory : Path} {base : Location} {overrides : Overrides} {tree : FileTree}
  {stored other : Text → Option Entry} {name : Text} {content : Content}

theorem AreHeld.congr (held : AreHeld stored overrides)
    (same : ∀ name ∈ templateFiles, ∀ content,
      stored name = some (.file content) ↔ other name = some (.file content)) :
    AreHeld other overrides where
  index := held.index.congr (same _ (by decide))
  scene := held.scene.congr (same _ (by decide))
  styles := held.styles.congr (same _ (by decide))

/-- The file of a template is found by its path, if it can be told what that leads to. -/
theorem lookup?_child_iff (wellFormed : tree.WellFormed)
    (leads : tree.find directory = .ok (.taken base .directory))
    (answered : tree.testFault? (directory.child name) = none) (member : name ∈ templateFiles) :
    tree.lookup? (directory.child name) = some (.file content) ↔
      tree.entry? (base ++ [name]) = some (.file content) := by
  have named : ∀ other ∈ [name], IsFileName other := by
    have all : ∀ other ∈ templateFiles, IsFileName other := by decide
    exact List.forall_mem_singleton.mpr (all name member)
  have proper : ∀ other ∈ [name], other ≠ ['.', '.'] := by
    have all : ∀ other ∈ templateFiles, other ≠ ['.', '.'] := by decide
    exact List.forall_mem_singleton.mpr (all name member)
  constructor
  · intro looked
    obtain ⟨location, found⟩ : ∃ location,
        tree.find (directory.child name) = .ok (.taken location (.file content)) := by
      unfold lookup? at looked
      split at looked
      · rename_i found
        cases looked
        exact ⟨_, found⟩
      · cases looked
    have own : location = base ++ [name] := location_find_below leads proper found
    exact own ▸ wellFormed.holds_find found
  · intro there
    rcases wellFormed.find_down leads named there with found | tooLong
    · unfold lookup? Path.child
      rw [found]
    · unfold testFault? Path.child at answered
      rw [tooLong] at answered
      cases answered

/-- The templates that a run loads lay in their directory before, if they are no log files. -/
theorem areHeld_of_loads {before : FileTree} (sound : start.IsSound)
    (leads : start.files.find directory = .ok (.taken base .directory))
    (given : config.templateDirectory = some directory)
    (loads : (loadTemplates config).run start = (.ok overrides, next))
    (older : ∀ {location content}, ¬ start.LogsTo location →
      (start.files.entry? location = some (.file content) ↔ before.entry? location = some (.file content)))
    (apart : ∀ name ∈ templateFiles, ¬ start.LogsTo (base ++ [name])) :
    AreHeld (fun name => before.entry? (base ++ [name])) overrides := by
  unfold loadTemplates at loads
  rw [given] at loads
  obtain ⟨_, told, reported, loads⟩ := ok_of_andThen loads
  obtain rfl : (report .debug ("Loading templates from " ++ directory.print.str) start).2 = told :=
    congrArg Prod.snd (lift_eq_ok.mp reported)
  have opened := keeps_report_ways .debug ("Loading templates from " ++ directory.print.str) start
    (.refl [] sound)
  obtain ⟨files, read, -⟩ := onFiles_eq_ok.mp loads
  obtain ⟨-, answered, held⟩ := readTemplates_eq_ok.mp read
  have leadsNow := opened.preserves.find_directory sound.wellFormed leads
  refine held.congr fun name member content => ?_
  rw [lookup?_child_iff opened.isSound.wellFormed leadsNow (answered name member) member]
  exact (opened.file_iff (apart name member)).trans (older (apart name member))

/-- What a run has rendered with these templates, a site or a book: its documents are there, and so is the style
sheet as it is. -/
inductive World.HasRendered (after : World) (job : Job) (templates : PageTemplates) : Text → Prop
  | site {place : Location} {pages : List Play.Page} {documents : List Document}
      (documentsOf : Site.AreDocumentsOf job templates pages documents)
      (leads : after.files.find job.output = .ok (.taken place .directory))
      (there : ∀ document ∈ documents,
        after.files.entry? (place ++ [document.name]) = some (.file (.ofText document.content)))
      (styles : after.files.entry? (place ++ [stylesheet]) = some (.file (.ofText templates.styles))) :
      HasRendered after job templates Config.htmlFormat
  | book {place : Location} {pages : List Play.Page} {documents : List Document} {members : List Member}
      (documentsOf : Book.AreDocumentsOf job templates pages documents)
      (archive : LeadsToArchive after.LogsTo job.output place members after.files)
      (distinct : (members.map Member.name).Nodup)
      (there : ∀ document ∈ documents,
        Book.textMember (Book.inContent document.name) document.content ∈ members)
      (styles : Book.textMember (Book.inContent stylesheet) templates.styles ∈ members) :
      HasRendered after job templates Config.epubFormat

/-- A run has taken the templates of a directory: the texts that lay there before the run replace those that are
packaged, in all that has been rendered. -/
structure TakesTemplates (config : Config) (directory : Path) (before after : World) (base : Location)
    (job : Job) (templates : PageTemplates) : Prop where
  named : config.output = some job.output
  leads : after.files.find directory = .ok (.taken base .directory)
  held : (∀ name ∈ templateFiles, ¬ after.LogsTo (base ++ [name])) →
    AreHeld (fun name => before.files.entry? (base ++ [name])) job.templates
  chosen : PageTemplates.AreChosen job.templates templates
  rendered : after.HasRendered job templates config.format

theorem takesTemplates_book (sound : world.IsSound)
    (asked : Config.resolve surroundings.settings words = .ok (.run config))
    (book : config.format = Config.epubFormat) (given : config.templateDirectory = some directory)
    (named : world.files.IsNamed) (read : surroundings.settings.AreRead)
    (done : (run surroundings words world).1 = .ok outcome) (rendered : outcome.ending = .rendered) :
    ∃ base job templates,
      TakesTemplates config directory world (run surroundings words world).2 base job templates := by
  obtain ⟨binding, logging, preserved, archive⟩ := exists_binding_of_run sound asked book done rendered
  have sets := binding.sets
  have told := binding.keepsTold
  have listed := binding.keepsListed
  obtain ⟨base, leads⟩ := sets.exists_templates (.inr book) given
  refine ⟨base, surroundings.job config binding.checked.story binding.output binding.overrides,
    binding.templates, binding.asOutput, ?_, fun apart => ?_, ?_, ?_⟩
  · exact preserved.find_directory listed.isSound.wellFormed
      (listed.preserves.find_directory sets.sound.wellFormed leads)
  · rw [logging, listed.logsTo_eq sets.sound, ← told.logsTo_eq sets.sound] at apart
    refine areHeld_of_loads told.isSound (told.preserves.find_directory sets.sound.wellFormed leads) given
      binding.loads (fun notLogged => ?_) apart
    rw [told.logsTo_eq sets.sound] at notLogged
    exact (told.file_iff notLogged).trans (ChangesOnly.file_iff sets.opened notLogged)
  · exact ofOverrides_eq_ok.mp (mapError_eq_ok.mp binding.documentsOf.loaded)
  · rw [book]
    have names := listed.isNamed sets.sound (sets.named named read.logPath) (List.forall_mem_nil _)
    exact .book binding.documentsOf archive
      (binding.documentsOf.nodup_names names binding.images binding.read)
      (fun document member => List.mem_append_left _ (Book.mem_members_document member))
      (List.mem_append_left _ Book.mem_members_styles)

theorem takesTemplates_site (sound : world.IsSound)
    (asked : Config.resolve surroundings.settings words = .ok (.run config))
    (html : config.format = Config.htmlFormat) (given : config.templateDirectory = some directory)
    (named : world.files.IsNamed) (read : surroundings.settings.AreRead)
    (done : (run surroundings words world).1 = .ok outcome) (rendered : outcome.ending = .rendered) :
    ∃ base job templates,
      TakesTemplates config directory world (run surroundings words world).2 base job templates := by
  obtain ⟨building⟩ := exists_building_of_run sound asked html done rendered
  have sets := building.sets
  have told := building.keepsTold
  have ended := building.ended named read
  have publishedSound := building.isSound named read
  have listedSound := building.keepsListed.isSound
  obtain ⟨-, preserved, there⟩ := building.changes named read
  obtain ⟨base, leads⟩ := sets.exists_templates (.inl html) given
  have finds {path : Path} {place : Location}
      (found : building.listed.files.find path = .ok (.taken place .directory)) :
      (run surroundings words world).2.files.find path = .ok (.taken place .directory) :=
    ended.preserves.find_directory publishedSound.wellFormed
      (preserved.find_directory listedSound.wellFormed found)
  have shown : ∀ document ∈ building.documents, (run surroundings words world).2.files.entry?
      (building.place ++ [document.name]) = some (.file (.ofText document.content)) :=
    fun document member => (building.file_ended_iff named read).mpr (there document member)
  refine ⟨base, surroundings.job config building.checked.story building.output building.overrides,
    building.templates, building.asOutput, finds (building.find_listed leads), fun apart => ?_, ?_, ?_⟩
  · rw [ended.logsTo_eq publishedSound, building.logsTo_published named read, ← building.logsTo_eq] at apart
    have starts := (ChangesOnly.preserves building.opensWays).find_directory told.isSound.wellFormed
      (told.preserves.find_directory sets.sound.wellFormed leads)
    refine areHeld_of_loads building.sound starts given building.loads (fun notLogged => ?_) apart
    rw [building.logsTo_eq] at notLogged
    exact (ChangesOnly.file_iff building.opensWays id).trans
      ((told.file_iff notLogged).trans (ChangesOnly.file_iff sets.opened notLogged))
  · exact ofOverrides_eq_ok.mp (mapError_eq_ok.mp building.documentsOf.loaded)
  · rw [html]
    refine .site building.documentsOf (finds building.isListed.leads) shown ?_
    obtain ⟨title, rest, same, -⟩ := building.documentsOf.rendered
    exact shown ⟨stylesheet, building.templates.styles⟩ (same ▸ .tail _ List.mem_cons_self)

theorem mem_missingTemplates {missing : List Text}
    (answered : ∀ name ∈ templateFiles, tree.testFault? (directory.child name) = none)
    (found : Preflight.missingTemplates tree directory = .ok missing) :
    name ∈ missing ↔ name ∈ templateFiles ∧
      ∀ content, tree.lookup? (directory.child name) ≠ some (.file content) := by
  rw [mem_filterM_ok found]
  refine and_congr_right fun member => ?_
  rw [show (tree.testFile (directory.child name) >>= fun file => pure !file) = _ from
    tested_bind (answered name member)]
  change Except.ok (!tree.isFile (directory.child name)) = .ok true ↔ _
  rw [Except.ok.injEq, Bool.not_eq_true', ← Bool.not_eq_true, isFile_eq_true, not_exists]

def ownDirectory : Text := "own"

/-- The story with a directory of empty templates and this style sheet. -/
def styledFiles (styles : Text) : FileTree :=
  (((shortFiles.put [ownDirectory] .directory).put [ownDirectory, "index.html"] (.file (.ofText []))).put
    [ownDirectory, "scene.html"] (.file (.ofText []))).put
    [ownDirectory, "styles.css"] (.file (.ofText styles))

theorem wellFormed_styledFiles (styles : Text) : (styledFiles styles).WellFormed :=
  (((wellFormed_shortFiles.put ⟨by decide, [], ownDirectory, rfl, rfl, by decide⟩).put
    ⟨by decide, [ownDirectory], "index.html".toList, rfl, rfl, by decide⟩).put
    ⟨by decide, [ownDirectory], "scene.html".toList, rfl, rfl, by decide⟩).put
    ⟨by decide, [ownDirectory], "styles.css".toList, rfl, rfl, by decide⟩

theorem isNamed_styledFiles (styles : Text) : (styledFiles styles).IsNamed :=
  ((((isNamed_empty.put (by decide) (by decide)).put (by decide) (by decide)).put (by decide)
    (by decide)).put (by decide) (by decide)).put (by decide) (by decide)

def styledWords : List Text := siteWords ++ ["--template".toList, ownDirectory]

def styledConfig : Config := { siteConfig with templateDirectory := some "own" }

theorem run_styled_eq_judge {files : FileTree} (passed : Preflight.check files styledConfig = ([], .ok none))
    (read : files.readMarkedText "story.md" = .ok shortSource) :
    (run usualSurroundings styledWords).run { files } =
      (liftM (judge usualSurroundings styledConfig ⟨shortStory, [], []⟩) : Action Escape Outcome).run
        ((World.resolved { files } usualSurroundings styledConfig).report .log "Parsing story...") :=
  (run_eq_runConfig rfl rfl).trans (runConfig_eq_judge rfl rfl passed read ofText_shortSource)

theorem run_styled_rendered :
    (run usualSurroundings styledWords { files := styledFiles "plain" }).1 = .ok ⟨.rendered, "", false⟩ := by
  have judged := @run_styled_eq_judge (styledFiles "plain") (by decide +kernel) (by decide +kernel)
  rw [show run usualSurroundings styledWords { files := styledFiles "plain" } = _ from judged]
  decide +kernel

theorem isRead_usualSurroundings : usualSurroundings.settings.AreRead := ⟨Path.isRead_ofText _, nofun⟩

theorem eq_packaged_of_empty {given : Option Text} {styles : Text}
    (holds : HoldsText (some (.file (.ofText []))) given) (chosen : IsChosen .ok Packaged.styles given styles) :
    styles = Packaged.styles := by
  generalize written : some (Entry.file (.ofText [])) = entry at holds
  cases holds with
  | missing nothing => exact absurd written.symm (nothing _)
  | file there decoded =>
      cases written.trans there
      cases (Utf8.decode_encode []).symm.trans decoded
      cases chosen with
      | empty => rfl
      | given some_text _ => exact absurd rfl some_text

theorem World.HasRendered.entry?_styles {after : World} {job : Job} {templates : PageTemplates} {format : Text}
    {place : Location} (rendered : after.HasRendered job templates format) (html : format = Config.htmlFormat)
    (leads : after.files.find job.output = .ok (.taken place .directory)) :
    after.files.entry? (place ++ [stylesheet]) = some (.file (.ofText templates.styles)) := by
  cases rendered with
  | site _ stands _ styles =>
      rw [leads] at stands
      cases stands
      exact styles
  | book => exact absurd html (by decide)

/-- Where no log is written, an empty style sheet is the same as none. -/
theorem TakesTemplates.styles_eq_packaged {before after : World} {job : Job} {templates : PageTemplates}
    (takes : TakesTemplates config directory before after base job templates)
    (silent : after.logging.handlers = [.console])
    (empty : before.files.entry? (base ++ ["styles.css".toList]) = some (.file (.ofText []))) :
    templates.styles = Packaged.styles := by
  have held := takes.held (by
    rintro name _ ⟨path, content, member, _⟩
    rw [silent] at member
    cases List.mem_singleton.mp member)
  have holds : HoldsText (some (.file (.ofText []))) job.templates.styles := empty ▸ held.styles
  exact eq_packaged_of_empty holds takes.chosen.styles

end Gamebook.Run
