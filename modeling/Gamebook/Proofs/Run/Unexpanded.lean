import Gamebook.Proofs.Run.Opening
import Gamebook.Proofs.Run.Publishing

/-!
A run whose story cannot be expanded writes no page. Both a site and a book are written only when all
their pages are known, so that such a run leaves log files, and of a site its directory.
-/

namespace Gamebook

open Gamebook.Text Gamebook.Markup Gamebook.Publish

/-- The story has no pages within the bound, or its description cannot be rendered. -/
def Story.FailsToExpand (story : Story) (ending : Text) (bound : Int) : Prop :=
  (∃ error, story.pages (Job.pageName ending) bound = .error error) ∨
    ∃ error, Blocks.render story.description = .error error

namespace Run

open Gamebook.Files Gamebook.Files.FileTree

variable {surroundings : Surroundings} {words : List Text} {world before : World} {config : Config}
  {story : Story} {checked : Story.Checked} {job : Job} {edition : Edition} {ending text : Text}
  {ways : List Path} {kept : World → Prop} {plan : Plan} {planned : Plan → Prop}
  {templates : Template.PageTemplates} {title : Text} {list : List Play.Page}

theorem not_titled_of_failsToExpand (unexpanded : job.story.FailsToExpand ending job.maxStates)
    (expanded : job.pages ending = .ok list) : job.titlePage templates ending ≠ .ok title := by
  intro titled
  rcases unexpanded with ⟨error, failed⟩ | ⟨error, failed⟩
  · rw [Job.pages, failed] at expanded
    cases expanded
  · obtain ⟨description, rendered, _⟩ := bind_eq_ok.mp titled
    rw [failed] at rendered
    cases rendered

/-- What is done once the pages and the title page are there is not done. -/
theorem keeps_expanding {α : Type} {record : List Play.Page → Log.Record}
    {rest : List Play.Page → Text → Action Failure α}
    (unexpanded : job.story.FailsToExpand ending job.maxStates) :
    Keeps (before.OpensWays ways) (do
      let pages ← ofExcept (job.pages ending)
      emit (record pages)
      let title ← ofExcept (job.titlePage templates ending)
      rest pages title : Action Failure α) := by
  refine Attempts.keeps (Attempts.andThen (Attempts.ofExcept fun _ => id) ?_)
  rintro pages world ⟨expanded, opened⟩
  refine Attempts.andThen ((Keeps.lift (keeps_emit_ways _)).attempts fun _ => id) (fun _ => ?_)
    world opened
  refine Attempts.andThen (Attempts.ofExcept fun _ => id) ?_
  rintro title world ⟨titled, _⟩
  exact absurd titled (not_titled_of_failsToExpand unexpanded expanded)

namespace Plan

def FailsToExpand : Plan → Prop
  | .site job => job.story.FailsToExpand Site.pageEnding job.maxStates
  | .book job _ => job.story.FailsToExpand Book.pageEnding job.maxStates

/-- The ways on which directories are made before there are pages. -/
def siteWays : Plan → List Path
  | .site job => [job.output]
  | .book _ _ => []

end Plan

theorem keeps_carryOut_unexpanded (unexpanded : plan.FailsToExpand)
    (included : ∀ path ∈ plan.siteWays, path ∈ ways) :
    Keeps (before.OpensWays ways) (carryOut plan) := by
  refine Keeps.andThen (Keeps.lift (keeps_report_ways _ _)) fun _ => ?_
  refine Keeps.andThen ?_ fun _ => Keeps.lift (keeps_report_ways _ _)
  cases plan with
  | site job =>
      have way := included job.output (List.mem_singleton_self _)
      refine Keeps.andThen (keeps_makeAllDirectories_ways way) fun _ => ?_
      exact Keeps.andThen (Keeps.ofExcept _) fun templates => keeps_expanding unexpanded
  | book job edition =>
      exact Keeps.andThen (Keeps.ofExcept _) fun templates => keeps_expanding unexpanded

def Config.pageEnding (config : Config) : Text :=
  if config.format = Config.htmlFormat then Site.pageEnding else Book.pageEnding

/-- The way on which the directory of a site is made. -/
def Config.siteWays (config : Config) : List Path :=
  if config.format = Config.htmlFormat then config.output.toList else []

theorem keeps_loadTemplates_ways : Keeps (before.OpensWays ways) (loadTemplates config) := by
  unfold loadTemplates
  cases config.templateDirectory with
  | none => exact Keeps.pure _
  | some directory =>
      refine Keeps.andThen (Keeps.lift (keeps_report_ways _ _)) fun _ => ?_
      exact keeps_onFiles_looking fun tree =>
        @keeps_readTemplates (· = tree) directory tree rfl

theorem attempts_makePlan_unexpanded
    (unexpanded : story.FailsToExpand config.pageEnding surroundings.settings.maxStates) :
    Attempts (before.OpensWays config.siteWays) (makePlan surroundings config story)
      (fun plan world => (plan.FailsToExpand ∧ ∀ path ∈ plan.siteWays, path ∈ config.siteWays) ∧
        before.OpensWays config.siteWays world)
      (before.OpensWays config.siteWays) := by
  match formed : formOf config with
  | .error fault =>
      rw [makePlan_of_usage formed]
      exact fun world opened => opened
  | .ok (.site, output) =>
      obtain ⟨asked, ⟨_, html⟩ | ⟨⟨_, other⟩, _⟩⟩ := formOf_eq_ok formed
      · have own : config.siteWays = [output] := by simp [Config.siteWays, html, asked]
        have way : output ∈ config.siteWays := own ▸ List.mem_singleton_self output
        rw [Config.pageEnding, if_pos html] at unexpanded
        rw [makePlan_of_site formed]
        refine Attempts.andThen ((keeps_makeAllDirectories_ways way).attempts fun _ => id) fun _ => ?_
        refine Attempts.andThen (keeps_loadTemplates_ways.attempts fun _ => id) fun templates => ?_
        refine Attempts.pure fun world opened => ⟨⟨unexpanded, fun path member => ?_⟩, opened⟩
        rw [own]
        exact member
      · cases other
  | .ok (.book author, output) =>
      obtain ⟨_, ⟨other, _⟩ | ⟨_, epub⟩⟩ := formOf_eq_ok formed
      · cases other
      · have notHtml : config.format ≠ Config.htmlFormat := by
          rw [epub]
          decide
        rw [Config.pageEnding, if_neg notHtml] at unexpanded
        rw [makePlan_of_book formed]
        refine Attempts.andThen (keeps_loadTemplates_ways.attempts fun _ => id) fun templates => ?_
        exact Attempts.pure fun world opened => ⟨⟨unexpanded, fun _ => List.not_mem_nil.elim⟩, opened⟩

section Kept

variable (reports : ∀ channel text, Keeps kept (report channel text))

include reports

theorem keeps_present_of_reports (outcome : Outcome) : Keeps kept (present outcome) := by
  have help : Keeps kept (do
      if outcome.showsHelp then report .raw usage
      return outcome) := by
    dsimp only
    split
    · exact Keeps.bind (reports _ _) fun _ => Keeps.pure _
    · exact Keeps.pure _
  unfold present
  dsimp only
  split
  · exact Keeps.bind (reports _ _) fun _ => help
  · exact help

theorem keeps_fatal_of_reports (doing message : String) : Keeps kept (fatal doing message) :=
  Keeps.bind (reports _ _) fun _ => Keeps.pure _

/-- What is kept by every report, by making a plan and by carrying it out is kept by rendering. -/
theorem keeps_render_of_plan
    (making : Attempts kept (makePlan surroundings config story)
      (fun plan world => planned plan ∧ kept world) kept)
    (carrying : ∀ plan, planned plan → Keeps kept (carryOut plan)) :
    Keeps kept (render surroundings config story) := by
  unfold render
  refine Ensures.bind making fun result => ?_
  match result with
  | .error (.usage fault) =>
      change Keeps kept _
      dsimp only
      split
      · exact Keeps.bind (reports _ _) fun _ => keeps_present_of_reports reports _
      · exact keeps_present_of_reports reports _
  | .error (.files fault) => exact keeps_fatal_of_reports reports _ _
  | .ok plan =>
      rintro world ⟨made, holds⟩
      refine Keeps.bind (carrying plan made) (fun carried => ?_) world holds
      match carried with
      | .error failure => exact keeps_fatal_of_reports reports _ _
      | .ok () => exact Keeps.pure _

theorem keeps_judge_of_plan
    (making : Attempts kept (makePlan surroundings config checked.story)
      (fun plan world => planned plan ∧ kept world) kept)
    (carrying : ∀ plan, planned plan → Keeps kept (carryOut plan)) :
    Keeps kept (judge surroundings config checked) := by
  unfold judge
  refine Keeps.bind (Keeps.forM (fun line => reports _ line) _) fun _ => ?_
  split
  · exact Keeps.pure _
  · split
    · exact keeps_render_of_plan reports making carrying
    · exact Keeps.pure _

end Kept

/-- A run that has read a text judges the story of the text. -/
theorem ReadsText.run_eq_judge (reads : ReadsText surroundings words world config text)
    (parsed : Story.ofText text = .ok checked) (rendering : config.mode = .render) :
    ∃ ready, prepare surroundings words world = (.ok (.ready config), ready) ∧
      run surroundings words world =
        (.ok (judge surroundings config checked (ready.report .log "Parsing story...")).1,
          (judge surroundings config checked (ready.report .log "Parsing story...")).2) := by
  obtain ⟨ready, path, prepared, source, read⟩ := reads
  have story := @readStory_eq surroundings ready config path text rendering source read
  rw [parsed] at story
  have judged : readAndJudge surroundings config ready =
      judge surroundings config checked (ready.report .log "Parsing story...") := run_bind story
  refine ⟨ready, prepared, ?_⟩
  rw [run_of_ready prepared, judged]

/-- There is room for one state only. -/
def boundedSurroundings (logPath : Option Path) : Surroundings :=
  { usualSurroundings with settings := { usualSurroundings.settings with logPath, maxStates := 1 } }

theorem keyStory_unexpanded (ending : Text) : Story.keyStory.FailsToExpand ending 1 := by
  have walked : Story.keyStory.walk 1 = .error (.tooManyStates 1) := by decide +kernel
  refine .inl ⟨.walk (.tooManyStates 1), ?_⟩
  rw [Story.pages, walked]
  rfl

def bookWords : List Text :=
  ["--format", "epub", "--in", "story.md", "--out", "a.epub", "--author", "A"]

def bookConfig : Config where
  mode := .render
  format := Config.epubFormat
  inputPath := some "story.md"
  output := some "a.epub"
  author := some "A".toList

end Run

end Gamebook
