import Gamebook.Proofs.Publish.Contents
import Gamebook.Proofs.Run.Agreement

/-!
What a run that renders a site leaves: a new directory with a title page, a style sheet and one page for
each state of the story, which lead to one another.
-/

namespace Gamebook.Run

open Gamebook.Text Gamebook.Files Gamebook.Files.FileTree Gamebook.Markup Gamebook.Publish

variable {surroundings : Surroundings} {words : List Text} {world : World} {config : Config}
  {start : FileTree} {story : Story} {checked : Story.Checked} {output : Path} {place : Location}
  {outcome : Outcome} {text : Text} {job : Job}

/-- The site of a job is published at a place where there was nothing at the start. -/
def IsPublished (start : FileTree) (job : Job) (world : World) : Prop :=
  ∃ place title list pages, start.entry? place = none ∧
    job.titlePage Template.PageTemplates.packaged Site.pageEnding = .ok title ∧
    job.pages Site.pageEnding = .ok list ∧
    List.Forall₂ (fun page document =>
      job.document Template.PageTemplates.packaged Site.pageEnding page = .ok document) list pages ∧
    Site.Stands job.output place
      (⟨Site.titleName, title⟩ :: ⟨stylesheet, Template.PageTemplates.packaged.styles⟩ :: pages) world

/-- A directory that had to be new is empty, and no log file stands in it. -/
theorem attempts_makeSite : Attempts (IsLater start)
    (onFiles PlanFault.files (makeAllDirectories false output))
    (fun _ world => ∃ place, start.entry? place = none ∧ Site.Stands output place [] world)
    fun _ => True := by
  intro world later
  change ifGiven _ _ (onFiles PlanFault.files (makeAllDirectories false output) world).1
    (onFiles PlanFault.files (makeAllDirectories false output) world).2
  unfold onFiles makeAllDirectories
  cases done : makeDirectories false output world.files with
  | mk result files =>
      cases result with
      | error fault => trivial
      | ok _ =>
          obtain ⟨place, fresh, site, nothing⟩ := IsSite.of_makeDirectories later.wellFormed done
          refine ⟨place, later.held.free_before fresh, site.wellFormed, fun path member => ?_,
            site.leads, fun names entry some_names => ?_⟩
          · obtain ⟨location, content, found, _⟩ := later.logs path member
            have outside := later.wellFormed.outside_of_free fresh (later.wellFormed.holds_find found)
            obtain ⟨current, stays⟩ := site.preserves.find_file later.wellFormed found
            exact ⟨location, current, stays, outside⟩
          · rw [nothing names some_names]
            simp

theorem attempts_planSite (formed : formOf config = .ok (.site, output))
    (packaged : config.templateDirectory = none) :
    Attempts (IsLater start) (makePlan surroundings config story)
      (fun plan world => plan = .site (surroundings.job config story output {}) ∧
        ∃ place, start.entry? place = none ∧ Site.Stands output place [] world)
      fun _ => True := by
  rw [makePlan_of_site formed]
  refine Attempts.andThen attempts_makeSite fun _ => ?_
  unfold loadTemplates
  rw [packaged]
  exact Attempts.pure fun world made => ⟨rfl, made⟩

theorem attempts_carryOutSite (usual : job.templates = {}) (noImages : job.imageDirectory = none) :
    Attempts (fun world => ∃ place, start.entry? place = none ∧ Site.Stands job.output place [] world)
      (carryOut (.site job)) (fun _ => IsPublished start job) fun _ => True := by
  rintro world ⟨place, fresh, stands⟩
  have told : ∀ {documents : List Document} (text : String),
      Attempts (Site.Stands job.output place documents) (report .log text : Action Failure Unit)
        (fun _ => Site.Stands job.output place documents) fun _ => True := fun text =>
    (Keeps.lift (IsLogging.keeps_report Site.isApart_listed.allowsAppending .log text)).attempts
      fun _ _ => trivial
  refine (Attempts.andThen (told _) fun _ => ?_) world stands
  refine Attempts.andThen (Site.attempts_publish usual noImages) fun _ => ?_
  rintro world ⟨title, list, pages, titled, expanded, paired, stands⟩
  have done := told "Done." world stands
  exact ⟨place, title, list, pages, fresh, titled, expanded, paired, done⟩

theorem ending_present (outcome : Outcome) (world : World) :
    (present outcome world).1.ending = outcome.ending := by
  unfold present
  dsimp only
  split <;> split <;> rfl

theorem ensures_carryOutSite (usual : job.templates = {}) (noImages : job.imageDirectory = none) :
    Ensures (fun world => ∃ place, start.entry? place = none ∧ Site.Stands job.output place [] world)
      (do
        match ← (carryOut (.site job)).run with
        | .error failure => fatal "rendering story" failure.message
        | .ok () => return ⟨.rendered, "", false⟩)
      fun outcome world => outcome.ending = .rendered → IsPublished start job world := by
  refine Ensures.bind (attempts_carryOutSite usual noImages) fun carried => ?_
  match carried with
  | .error failure => exact fun world _ => nofun
  | .ok () => exact Ensures.pure fun world published _ => published

theorem ensures_renderSite (formed : formOf config = .ok (.site, output))
    (packaged : config.templateDirectory = none) (noImages : config.imageDirectory = none) :
    Ensures (IsLater start) (render surroundings config story) fun outcome world =>
      outcome.ending = .rendered →
        IsPublished start (surroundings.job config story output {}) world := by
  unfold render
  refine Ensures.bind (attempts_planSite formed packaged) fun planned => ?_
  match planned with
  | .error (.usage fault) =>
      have shown : Ensures (fun _ => True) (present ⟨.usageError, "", fault.showsHelp⟩)
          fun outcome world => outcome.ending = .rendered →
            IsPublished start (surroundings.job config story output {}) world :=
        fun world _ rendered => nomatch (ending_present _ world).symm.trans rendered
      dsimp only
      split
      · exact Ensures.bind (fun _ _ => trivial) fun _ => shown
      · exact shown
  | .error (.files fault) => exact fun world _ => nofun
  | .ok plan =>
      rintro world ⟨rfl, made⟩
      exact @ensures_carryOutSite start (surroundings.job config story output {}) rfl noImages world made

theorem ensures_judgeSite (formed : formOf config = .ok (.site, output))
    (packaged : config.templateDirectory = none) (noImages : config.imageDirectory = none)
    (checked : Story.Checked) :
    Ensures (IsLater start) (judge surroundings config checked) fun outcome world =>
      outcome.ending = .rendered →
        IsPublished start (surroundings.job config checked.story output {}) world := by
  unfold judge
  refine Ensures.bind (Keeps.forM (fun line => IsLogging.keeps_report isApart_later.allowsAppending .raw line) _)
    fun _ => ?_
  split
  · exact Ensures.pure fun world _ => nofun
  · split
    · exact ensures_renderSite formed packaged noImages
    · exact Ensures.pure fun world _ => nofun

/-- The run gets as far as reading its story with this configuration, and reads this text. -/
def ReadsText (surroundings : Surroundings) (words : List Text) (world : World) (config : Config)
    (text : Text) : Prop :=
  ∃ ready path, prepare surroundings words world = (.ok (.ready config), ready) ∧
    config.inputPath = some path ∧ ready.files.readMarkedText path = .ok text

theorem ReadsText.published (reads : ReadsText surroundings words world config text)
    (wellFormed : world.files.WellFormed) (logs : world.LogsAt fun _ => True)
    (html : config.format = Config.htmlFormat) (packaged : config.templateDirectory = none)
    (noImages : config.imageDirectory = none)
    (done : (run surroundings words world).1 = .ok outcome) (rendered : outcome.ending = .rendered) :
    ∃ checked output, Story.ofText text = .ok checked ∧ config.output = some output ∧
      IsPublished world.files (surroundings.job config checked.story output {})
        (run surroundings words world).2 := by
  obtain ⟨ready, path, prepared, source, read⟩ := reads
  obtain ⟨asked, later⟩ := (isHeldByLogging_later world.files).ready
    ⟨wellFormed, logs, .refl _ _⟩ prepared
  obtain ⟨rendering, some_output⟩ := renders_of_resolve asked (.inl html)
  obtain ⟨output, given⟩ := Option.ne_none_iff_exists'.mp some_output
  have formed : formOf config = .ok (.site, output) := by simp [formOf, given, html]
  have story := @readStory_eq surroundings ready config path text rendering source read
  rw [run_of_ready prepared] at done ⊢
  cases parsed : Story.ofText text with
  | error fault =>
      rw [parsed] at story
      have ended : readAndJudge surroundings config ready = fatal "parsing story" fault.message _ :=
        run_bind story
      rw [ended] at done
      cases done
      cases rendered
  | ok checked =>
      rw [parsed] at story
      have ended : readAndJudge surroundings config ready = judge surroundings config checked _ :=
        run_bind story
      rw [ended] at done ⊢
      refine ⟨checked, output, rfl, given, ?_⟩
      have told := IsLogging.keeps_report isApart_later.allowsAppending .log "Parsing story..." ready later
      refine ensures_judgeSite formed packaged noImages checked _ told ?_
      cases done
      exact rendered

/-- A directory with a story in which one goes back and forth. -/
def keyFiles : FileTree := ({} : FileTree).put [storyName] (.file (.ofText Story.keySource))

end Gamebook.Run
