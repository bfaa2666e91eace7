import Gamebook.Proofs.Run.Stages

/-!
What a run prints of its own accord: the findings about a story, and nothing else once the story has
been read.
-/

namespace Gamebook.Run

open Gamebook.Text Gamebook.Files Gamebook.Publish

variable {surroundings : Surroundings} {config : Config} {world : World} {lines : List String}
  {channel : Channel} {text : String} {checked : Story.Checked} {story : Story}

theorem emit_diagnostics (world : World) (record : Log.Record) :
    (world.emit record).diagnostics = world.diagnostics := by
  have delivered : ∀ (handlers : List Log.Handler) (world : World),
      (handlers.foldl (World.deliver record) world).diagnostics = world.diagnostics := by
    intro handlers
    induction handlers with
    | nil => exact fun _ => rfl
    | cons handler handlers ih => exact fun world => ih (world.deliver record handler)
  unfold World.emit
  split
  · rfl
  · exact delivered _ world

theorem report_diagnostics (world : World) (channel : Channel) (text : String) :
    (world.report channel text).diagnostics = world.diagnostics ++ [⟨channel, text⟩] := by
  unfold World.report
  dsimp only
  split
  · rfl
  · exact emit_diagnostics _ _

theorem report_output (world : World) (channel : Channel) (text : String) :
    (world.report channel text).output =
      if channel = .raw then world.output ++ [text] else world.output := by
  unfold World.output
  rw [report_diagnostics, List.filter_append, List.map_append]
  cases channel <;> simp

/-- These lines are all that has been printed. -/
def HasPrinted (lines : List String) (world : World) : Prop := world.output = lines

theorem keepsPrinted_report (unprinted : channel ≠ .raw) (text : String) :
    Keeps (HasPrinted lines) (report channel text) := by
  intro world printed
  change (world.report channel text).output = lines
  rw [report_output, if_neg unprinted]
  exact printed

theorem keepsPrinted_emit (record : Log.Record) : Keeps (HasPrinted lines) (emit record) := by
  intro world printed
  change (world.emit record).output = lines
  rw [World.output, emit_diagnostics]
  exact printed

theorem keepsPrinted_onFiles {α ε : Type} {wrap : Files.Fault → ε} (action : FileAction α) :
    Keeps (HasPrinted lines) (onFiles wrap action) := by
  intro world printed
  change (onFiles wrap action world).2.output = lines
  unfold onFiles
  split <;> exact printed

theorem keepsPrinted_configureLogging (level : Option Text) (logPath : Option Path) (debug : Bool) :
    Keeps (HasPrinted lines) (configureLogging level logPath debug) := by
  unfold configureLogging
  refine Keeps.andThen Keeps.get fun world => ?_
  split
  · exact Keeps.pure _
  · refine Keeps.andThen (Keeps.modify fun world printed => printed) fun _ => ?_
    cases logPath with
    | none => exact Keeps.modify fun world printed => printed
    | some path =>
        refine Keeps.andThen (keepsPrinted_onFiles _) fun _ => ?_
        refine Keeps.andThen Keeps.get fun seen => ?_
        refine Keeps.andThen (keepsPrinted_onFiles _) fun _ => ?_
        refine Keeps.andThen (Keeps.modify fun world printed => printed) fun _ => ?_
        exact Keeps.modify fun world printed => printed

theorem isHeldByLogging_hasPrinted (lines : List String) : IsHeldByLogging (HasPrinted lines) where
  report := fun _ text unprinted => keepsPrinted_report unprinted text
  configure := keepsPrinted_configureLogging

theorem keepsPrinted_writePages {job : Job} {templates : Template.PageTemplates}
    (pages : List Play.Page) : Keeps (HasPrinted lines) (Site.writePages job templates pages) := by
  induction pages with
  | nil => exact Keeps.pure _
  | cons page pages ih =>
      refine Keeps.andThen (Keeps.ofExcept _) fun document => ?_
      exact Keeps.andThen (keepsPrinted_onFiles _) fun _ => ih

theorem keepsPrinted_publishSite (job : Job) : Keeps (HasPrinted lines) (Site.publish job) := by
  refine Keeps.andThen (keepsPrinted_onFiles _) fun _ => ?_
  refine Keeps.andThen (Keeps.ofExcept _) fun templates => ?_
  refine Keeps.andThen (Keeps.ofExcept _) fun pages => ?_
  refine Keeps.andThen (Keeps.lift (keepsPrinted_emit _)) fun _ => ?_
  refine Keeps.andThen (Keeps.ofExcept _) fun title => ?_
  refine Keeps.andThen (keepsPrinted_onFiles _) fun _ => ?_
  refine Keeps.andThen (keepsPrinted_onFiles _) fun _ => ?_
  refine Keeps.andThen (keepsPrinted_writePages pages) fun _ => ?_
  cases job.imageDirectory with
  | none => exact Keeps.pure _
  | some images => exact Keeps.andThen (keepsPrinted_onFiles _) fun _ => Keeps.pure _

theorem keepsPrinted_publishBook (job : Job) (edition : Edition) :
    Keeps (HasPrinted lines) (Book.publish job edition) := by
  refine Keeps.andThen (Keeps.ofExcept _) fun templates => ?_
  refine Keeps.andThen (Keeps.ofExcept _) fun pages => ?_
  refine Keeps.andThen (Keeps.lift (keepsPrinted_emit _)) fun _ => ?_
  refine Keeps.andThen (Keeps.ofExcept _) fun title => ?_
  refine Keeps.andThen (Keeps.ofExcept _) fun documents => ?_
  refine Keeps.andThen (keepsPrinted_onFiles _) fun images => ?_
  refine Keeps.andThen (keepsPrinted_onFiles _) fun _ => ?_
  refine Keeps.andThen (keepsPrinted_onFiles _) fun _ => ?_
  exact Keeps.andThen (keepsPrinted_onFiles _) fun members => keepsPrinted_onFiles _

theorem keepsPrinted_carryOut (plan : Plan) : Keeps (HasPrinted lines) (carryOut plan) := by
  refine Keeps.andThen (Keeps.lift (keepsPrinted_report (by decide) _)) fun _ => ?_
  refine Keeps.andThen ?_ fun _ => Keeps.lift (keepsPrinted_report (by decide) _)
  cases plan with
  | site job => exact keepsPrinted_publishSite job
  | book job edition => exact keepsPrinted_publishBook job edition

theorem keepsPrinted_loadTemplates : Keeps (HasPrinted lines) (loadTemplates config) := by
  unfold loadTemplates
  cases config.templateDirectory with
  | none => exact Keeps.pure _
  | some directory =>
      refine Keeps.andThen (Keeps.lift (keepsPrinted_report (by decide) _)) fun _ => ?_
      exact keepsPrinted_onFiles _

theorem keepsPrinted_makePlan : Keeps (HasPrinted lines) (makePlan surroundings config story) := by
  match formed : formOf config with
  | .error fault =>
      rw [makePlan_of_usage formed]
      exact Keeps.throw _
  | .ok (.site, output) =>
      rw [makePlan_of_site formed]
      refine Keeps.andThen (keepsPrinted_onFiles _) fun _ => ?_
      exact Keeps.andThen keepsPrinted_loadTemplates fun _ => Keeps.pure _
  | .ok (.book author, output) =>
      rw [makePlan_of_book formed]
      exact Keeps.andThen keepsPrinted_loadTemplates fun _ => Keeps.pure _

/-- A plan for a known form fails only over files. -/
theorem files_of_makePlan {form : Form} {output : Path} {final : World} {fault : PlanFault}
    (formed : formOf config = .ok (form, output))
    (failed : (makePlan surroundings config story).run world = (.error fault, final)) :
    ∃ cause, fault = .files cause := by
  have ofFiles : ∀ {α : Type} {action : FileAction α} {world final : World},
      (onFiles PlanFault.files action).run world = (.error fault, final) →
        ∃ cause, fault = .files cause := by
    intro α action world final failed
    change onFiles PlanFault.files action world = _ at failed
    unfold onFiles at failed
    split at failed
    · cases failed
    · rename_i cause _ _
      cases failed
      exact ⟨cause, rfl⟩
  have loading : ∀ {world final : World},
      (loadTemplates config).run world = (.error fault, final) → ∃ cause, fault = .files cause := by
    intro world final failed
    unfold loadTemplates at failed
    split at failed
    · cases failed
    · rcases error_of_andThen failed with told | ⟨_, _, _, read⟩
      · cases told
      · exact ofFiles read
  cases form with
  | site =>
      rw [makePlan_of_site formed] at failed
      rcases error_of_andThen failed with made | ⟨_, _, _, failed⟩
      · exact ofFiles made
      · rcases error_of_andThen failed with loaded | ⟨_, _, _, returned⟩
        · exact loading loaded
        · cases returned
  | book author =>
      rw [makePlan_of_book formed] at failed
      rcases error_of_andThen failed with loaded | ⟨_, _, _, returned⟩
      · exact loading loaded
      · cases returned

/-- A story that is not rendered for lack of a form is not answered with the list of options, where
there is an output. -/
def IsMade (config : Config) : Prop :=
  config.output ≠ none ∧ (config.format = Config.htmlFormat ∨ config.format = Config.epubFormat)

theorem missingAuthor_of_formOf {fault : UsageFault} (made : IsMade config)
    (failed : formOf config = .error fault) : fault = .missingAuthor := by
  obtain ⟨asked, format⟩ := made
  unfold formOf at failed
  split at failed
  · rename_i none
    exact absurd none asked
  · rcases format with html | epub
    · simp [html] at failed
    · have other : Config.epubFormat ≠ Config.htmlFormat := by decide
      rw [if_neg (epub ▸ other), if_pos epub] at failed
      split at failed
      · cases failed
        rfl
      · cases failed

def fatalLine (doing message : String) : String := "Fatal error while " ++ doing ++ ": " ++ message

/-- A run ends with this fault, which it met while it was doing this. -/
def FailsWhile (doing message : String) (outcome : Outcome) (world : World) : Prop :=
  outcome = ⟨.fatal, message, false⟩ ∧
    world.diagnostics.getLast? = some ⟨.exception, fatalLine doing message⟩

theorem fatal_tells (doing message : String) : Ensures (HasPrinted lines) (fatal doing message)
    fun outcome world => HasPrinted lines world ∧ FailsWhile doing message outcome world := by
  have told : Ensures (HasPrinted lines) (report .exception (fatalLine doing message))
      fun _ world => HasPrinted lines world ∧
        world.diagnostics.getLast? = some ⟨.exception, fatalLine doing message⟩ := by
    intro world printed
    refine ⟨keepsPrinted_report (by decide) _ world printed, ?_⟩
    change (world.report .exception (fatalLine doing message)).diagnostics.getLast? = _
    rw [report_diagnostics, List.getLast?_concat]
  exact Ensures.bind told fun _ => Ensures.pure fun world ⟨printed, told⟩ => ⟨printed, rfl, told⟩

theorem append_ne_of_start {first between doing other message reason : String}
    (apart : doing.toList.take 4 ≠ other.toList.take 4) (long : 4 ≤ doing.toList.length)
    (otherLong : 4 ≤ other.toList.length) :
    first ++ doing ++ between ++ message ≠ first ++ other ++ between ++ reason := by
  intro same
  have chars := congrArg String.toList same
  simp only [String.toList_append, List.append_assoc] at chars
  have starts := congrArg (List.take 4) (List.append_cancel_left chars)
  rw [List.take_append_of_le_length long, List.take_append_of_le_length otherLong] at starts
  exact apart starts

/-- What rendering a story comes to: nothing more is printed, and it is not the reading of the story
that fails. -/
def IsRendering (lines : List String) (outcome : Outcome) (world : World) : Prop :=
  HasPrinted lines world ∧ outcome.ending ≠ .blocked ∧
    ∀ message, ¬FailsWhile "parsing story" message outcome world

theorem IsRendering.of_ending {outcome : Outcome} (printed : HasPrinted lines world)
    (blocked : outcome.ending ≠ .blocked) (fatal : outcome.ending ≠ .fatal) :
    IsRendering lines outcome world := by
  refine ⟨printed, blocked, fun message failed => fatal ?_⟩
  rw [failed.1]

theorem IsRendering.of_fails {outcome : Outcome} {doing message : String}
    (printed : HasPrinted lines world) (failed : FailsWhile doing message outcome world)
    (apart : doing.toList.take 4 ≠ "parsing story".toList.take 4) (long : 4 ≤ doing.toList.length) :
    IsRendering lines outcome world := by
  refine ⟨printed, by rw [failed.1]; nofun, fun reason other => ?_⟩
  have same := failed.2.symm.trans other.2
  simp only [Option.some.injEq, Diagnostic.mk.injEq, true_and] at same
  exact append_ne_of_start apart long (by decide) same

/-- What becomes of a story for which it is known what is to be made of it: nothing more is printed, and
it is rendered, or making it ready for that or the rendering itself fails. -/
def IsCarriedOut (lines : List String) (outcome : Outcome) (world : World) : Prop :=
  HasPrinted lines world ∧ (outcome.ending = .rendered ∨
    (∃ message, FailsWhile "preparing renderer" message outcome world) ∨
    ∃ message, FailsWhile "rendering story" message outcome world)

theorem IsCarriedOut.isRendering {outcome : Outcome} (ended : IsCarriedOut lines outcome world) :
    IsRendering lines outcome world := by
  obtain ⟨printed, rendered | ⟨message, failed⟩ | ⟨message, failed⟩⟩ := ended
  · exact .of_ending printed (by rw [rendered]; nofun) (by rw [rendered]; nofun)
  · exact .of_fails printed failed (by decide) (by decide)
  · exact .of_fails printed failed (by decide) (by decide)

theorem ensures_carryOut_told (plan : Plan) : Ensures (HasPrinted lines) (do
    match ← (carryOut plan).run with
    | .error failure => fatal "rendering story" failure.message
    | .ok () => return ⟨.rendered, "", false⟩) (IsCarriedOut lines) := by
  refine Ensures.bind (keepsPrinted_carryOut plan) fun carried => ?_
  match carried with
  | .error failure =>
      exact (fatal_tells _ _).weaken fun outcome world ⟨printed, failed⟩ =>
        ⟨printed, .inr (.inr ⟨_, failed⟩)⟩
  | .ok () => exact Ensures.pure fun world printed => ⟨printed, .inl rfl⟩

theorem render_carries_out {asked : Form × Path} (formed : formOf config = .ok asked) :
    Ensures (HasPrinted lines) (render surroundings config story) (IsCarriedOut lines) := by
  have planned : Ensures (HasPrinted lines) (makePlan surroundings config story).run
      fun result world => HasPrinted lines world ∧
        ∀ fault, result = .error fault → ∃ cause, fault = .files cause :=
    fun world printed => ⟨keepsPrinted_makePlan world printed, fun fault failed =>
      files_of_makePlan formed (Prod.ext failed rfl : _ = (_, (makePlan _ _ _ world).2))⟩
  refine Ensures.bind planned fun result => ?_
  match result with
  | .error (.usage fault) =>
      rintro world ⟨_, files⟩
      obtain ⟨cause, same⟩ := files _ rfl
      cases same
  | .error (.files fault) =>
      rintro world ⟨printed, _⟩
      obtain ⟨kept, failed⟩ := fatal_tells "preparing renderer" fault.message world printed
      exact ⟨kept, .inr (.inl ⟨_, failed⟩)⟩
  | .ok plan => exact fun world ⟨printed, _⟩ => ensures_carryOut_told plan world printed

theorem render_tells (made : IsMade config) :
    Ensures (HasPrinted lines) (render surroundings config story) (IsRendering lines) := by
  cases formed : formOf config with
  | error fault =>
      rw [missingAuthor_of_formOf made formed] at formed
      intro world printed
      have usage : render surroundings config story world =
          (⟨.usageError, "", false⟩, world.report .error UsageFault.missingAuthor.message) := by
        unfold render
        rw [makePlan_of_usage formed]
        rfl
      rw [usage]
      exact .of_ending (keepsPrinted_report (by decide) _ world printed) nofun nofun
  | ok asked => exact (render_carries_out formed).weaken fun _ _ => IsCarriedOut.isRendering

/-- The warnings about a story as they are printed, each once. -/
def warningLines (checked : Story.Checked) : List String :=
  (checked.warnings.map Story.Warning.print).eraseDups

def orphanLines (checked : Story.Checked) : List String :=
  checked.orphans.map Story.Orphan.print

theorem forM_report_raw (texts : List String) (world : World) :
    ((texts.forM (report .raw)) world).2.output = world.output ++ texts := by
  induction texts generalizing world with
  | nil => exact (List.append_nil _).symm
  | cons text texts ih =>
      change ((texts.forM (report .raw)) (world.report .raw text)).2.output = _
      rw [ih, report_output, if_pos rfl, List.append_assoc, List.singleton_append]

theorem printFindings_tells (lint : Bool) (checked : Story.Checked) :
    Ensures (HasPrinted lines)
      ((Gate.ofFindings lint (checked.warnings.map Story.Warning.print)
        (checked.orphans.map Story.Orphan.print)).lines.forM (report .raw))
      fun _ => HasPrinted (lines ++ (warningLines checked ++ orphanLines checked)) := by
  intro world printed
  rw [← show world.output = lines from printed]
  exact forM_report_raw _ world

theorem judge_lint (lint : config.isLint = true) :
    Ensures (HasPrinted lines) (judge surroundings config checked) fun outcome world =>
      outcome = ⟨.linted, "", false⟩ ∧
        HasPrinted (lines ++ (warningLines checked ++ orphanLines checked)) world := by
  refine Ensures.bind (printFindings_tells _ checked) fun _ => ?_
  rw [if_pos lint]
  exact Ensures.pure fun world printed => ⟨rfl, printed⟩

theorem judge_render (rendering : config.mode = .render) (made : IsMade config) :
    Ensures (HasPrinted lines) (judge surroundings config checked) fun outcome world =>
      HasPrinted (lines ++ (warningLines checked ++ orphanLines checked)) world ∧
        (outcome.ending = .blocked ↔ warningLines checked ≠ []) ∧
        ∀ message, ¬FailsWhile "parsing story" message outcome world := by
  refine Ensures.bind (printFindings_tells _ checked) fun _ => ?_
  have notLint : config.isLint = false := by simp [Config.isLint, rendering]
  rw [if_neg (by rw [notLint]; decide)]
  cases found : checked.warnings with
  | nil =>
      have silent : warningLines checked = [] := by rw [warningLines, found]; rfl
      rw [if_pos (by rw [notLint]; rfl)]
      refine (render_tells made).weaken fun outcome world told => ?_
      obtain ⟨printed, unblocked, failed⟩ := told
      exact ⟨printed, by simp [unblocked, silent], failed⟩
  | cons warning warnings =>
      have told : warningLines checked ≠ [] := by
        rw [warningLines, found, List.map_cons, List.eraseDups_cons]
        exact List.cons_ne_nil _ _
      rw [if_neg (by simp [Gate.ofFindings])]
      exact Ensures.pure fun world printed => ⟨printed, by simp [told], fun message failed => by
        cases failed.1⟩

end Gamebook.Run
