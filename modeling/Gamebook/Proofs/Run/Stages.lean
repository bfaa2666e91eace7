import Gamebook.Proofs.Run.Passing

/-!
A run in two stages: what it does before it reads its story, and the reading and judging of the story.
On the way to the second stage nothing is told but log records.
-/

namespace Gamebook.Run

open Gamebook.Text Gamebook.Files Gamebook.Publish

variable {surroundings : Surroundings} {words : List Text} {config : Config} {world next : World}
  {held : World → Prop} {settings : Settings} {story : Story}

theorem eq_of_checked {result : Config} (accepted : config.checked = .ok result) :
    result = config ∧ (config.isLint = true ↔ config.format = Config.lintFormat) ∧
      (config.isLint = false → config.format = Config.htmlFormat ∨ config.format = Config.epubFormat →
        config.output ≠ none) := by
  unfold Config.checked at accepted
  split at accepted
  · cases accepted
  · rename_i agrees
    have agrees : config.isLint = true ↔ config.format = Config.lintFormat := by simpa using agrees
    split at accepted
    · rename_i lint
      cases accepted
      exact ⟨rfl, agrees, fun notLint => by rw [notLint] at lint; cases lint⟩
    · split at accepted
      · cases accepted
      · split at accepted
        · cases accepted
        · rename_i output
          cases accepted
          refine ⟨rfl, agrees, fun _ format missing => output ?_⟩
          simp [missing, format]

theorem checked_of_mapError {common : Config}
    (accepted : common.checked.mapError Config.ResolveFault.inconsistent = .ok config) :
    config.checked = .ok config := by
  have accepted := mapError_eq_ok.mp accepted
  rw [← (eq_of_checked accepted).1] at accepted
  exact accepted

theorem checked_of_ofOptions {options : Options}
    (formed : Config.ofOptions settings options = .ok config) : config.checked = .ok config := by
  unfold Config.ofOptions at formed
  dsimp only at formed
  split at formed
  · exact checked_of_mapError formed
  · split at formed
    · exact checked_of_mapError formed
    · cases formed

theorem exists_ofOptions_of_resolve (asked : Config.resolve settings words = .ok (.run config)) :
    ∃ options, Config.ofOptions settings options = .ok config := by
  unfold Config.resolve at asked
  split at asked
  · cases asked
  · split at asked
    · cases asked
    · split at asked
      · cases asked
      · rename_i options _
        cases formed : Config.ofOptions settings options with
        | error fault => simp [formed, Except.map] at asked
        | ok result =>
            simp only [formed, Except.map, Except.ok.injEq, Config.Request.run.injEq] at asked
            exact ⟨options, asked ▸ formed⟩

/-- Only configurations that make sense are resolved. -/
theorem checked_of_resolve (asked : Config.resolve settings words = .ok (.run config)) :
    config.checked = .ok config := by
  obtain ⟨options, formed⟩ := exists_ofOptions_of_resolve asked
  exact checked_of_ofOptions formed

theorem isLint_of_resolve (asked : Config.resolve settings words = .ok (.run config))
    (format : config.format = Config.lintFormat) : config.isLint = true :=
  (eq_of_checked (checked_of_resolve asked)).2.1.mpr format

/-- What is to be made as a site or a book is rendered, and has an output. -/
theorem renders_of_resolve (asked : Config.resolve settings words = .ok (.run config))
    (format : config.format = Config.htmlFormat ∨ config.format = Config.epubFormat) :
    config.mode = .render ∧ config.output ≠ none := by
  obtain ⟨_, lint, output⟩ := eq_of_checked (checked_of_resolve asked)
  have notLint : config.isLint = false := by
    cases isLint : config.isLint with
    | false => rfl
    | true =>
        rw [lint.mp isLint] at format
        exact absurd format (by decide)
  refine ⟨?_, output notLint format⟩
  cases mode : config.mode with
  | lint => simp [Config.isLint, mode] at notLint
  | render => rfl

/-- A run is over before its story is read, or ready to read it. -/
inductive Prepared where
  | over (outcome : Outcome)
  | ready (config : Config)

def checkFiles (config : Config) : Action Escape Prepared := do
  if config.isLint then return .ready config
  else
    match ← (preflight config).adapt .test with
    | some fault =>
      report .error fault.message
      return .over ⟨.preconditionFailed, fault.message, false⟩
    | none => return .ready config

/-- All that a run does before its story is read. -/
def prepare (surroundings : Surroundings) (words : List Text) : Action Escape Prepared := do
  let settings := surroundings.settings
  match Config.resolve settings words with
  | .error (.usage fault) =>
    return .over (← present ⟨.usageError, fault.message, fault.showsHelp⟩)
  | .error (.inconsistent reason) => throw (.inconsistent reason)
  | .ok .help => return .over (← present ⟨.help, "", true⟩)
  | .ok (.run config) =>
    (configureLogging settings.logLevel settings.logPath config.debug).adapt .logging
    report .debug ("Resolved configuration: " ++ config.print)
    checkFiles config

def finish (surroundings : Surroundings) : Prepared → Action Escape Outcome
  | .over outcome => return outcome
  | .ready config => readAndJudge surroundings config

theorem runConfig_eq_finish (surroundings : Surroundings) (config : Config) :
    runConfig surroundings config = checkFiles config >>= finish surroundings := by
  unfold runConfig checkFiles
  split
  · rfl
  · rw [bind_assoc]
    congr 1
    funext found
    cases found <;> rfl

/-- A run is its two stages, one behind the other. -/
theorem run_eq_finish (surroundings : Surroundings) (words : List Text) :
    run surroundings words = prepare surroundings words >>= finish surroundings := by
  unfold run prepare
  match asked : Config.resolve surroundings.settings words with
  | .error (.usage fault) =>
      simp only [asked]
      rfl
  | .error (.inconsistent reason) =>
      simp only [asked]
      rfl
  | .ok .help =>
      simp only [asked]
      rfl
  | .ok (.run config) =>
      simp only [asked, bind_assoc, runConfig_eq_finish]

theorem run_of_ready (prepared : prepare surroundings words world = (.ok (.ready config), next)) :
    run surroundings words world =
      (.ok (readAndJudge surroundings config next).1, (readAndJudge surroundings config next).2) := by
  rw [run_eq_finish]
  exact run_andThen prepared

theorem prepare_eq_checkFiles (noLog : surroundings.settings.logPath = none)
    (asked : Config.resolve surroundings.settings words = .ok (.run config)) :
    prepare surroundings words world = checkFiles config (world.resolved surroundings config) := by
  unfold prepare
  simp only [asked, noLog]
  refine (run_andThen (adapt_of_ok (configureLogging_none _ _ world))).trans ?_
  exact run_andThen rfl

theorem prepare_eq_ready (noLog : surroundings.settings.logPath = none)
    (asked : Config.resolve surroundings.settings words = .ok (.run config))
    (passed : config.isLint = true ∨
      Preflight.check (world.resolved surroundings config).files config = ([], .ok none)) :
    prepare surroundings words world =
      (.ok (.ready config), world.resolved surroundings config) := by
  rw [prepare_eq_checkFiles noLog asked]
  unfold checkFiles
  split
  · rfl
  · rename_i rendering
    exact run_andThen (adapt_of_ok (preflight_eq (passed.resolve_left rendering)))

/-- What holds of a world whatever is told, raw lines apart. -/
def IsHeldByReports (held : World → Prop) : Prop :=
  ∀ channel text, channel ≠ .raw → Keeps held (report channel text)

/-- What holds of a world whatever is written to the log. -/
structure IsHeldByLogging (held : World → Prop) : Prop where
  report : IsHeldByReports held
  configure : ∀ level logPath debug, Keeps held (configureLogging level logPath debug)

theorem IsHeldByReports.preflight (holds : IsHeldByReports held) : Keeps held (preflight config) := by
  refine Keeps.andThen Keeps.get fun seen => ?_
  refine Keeps.andThen (Keeps.tryForM (fun remark => ?_) _) fun _ => Keeps.ofExcept _
  exact Keeps.lift (holds _ remark (by decide))

/-- A run that is ready to read its story has the configuration that was asked for. -/
def IsReadyFor (settings : Settings) (words : List Text) (held : World → Prop) :
    Prepared → World → Prop
  | .over _, _ => True
  | .ready config, world => Config.resolve settings words = .ok (.run config) ∧ held world

theorem IsHeldByReports.checkFiles (holds : IsHeldByReports held)
    (asked : Config.resolve settings words = .ok (.run config)) :
    Attempts held (checkFiles config) (IsReadyFor settings words held) fun _ => True := by
  unfold Run.checkFiles
  split
  · exact Attempts.pure fun world kept => ⟨asked, kept⟩
  · refine Attempts.andThen (Attempts.adapt (holds.preflight.attempts fun _ _ => trivial)) ?_
    rintro (_ | fault)
    · exact Attempts.pure fun world kept => ⟨asked, kept⟩
    · exact fun _ _ => trivial

theorem IsHeldByLogging.prepare (holds : IsHeldByLogging held) :
    Attempts held (prepare surroundings words) (IsReadyFor surroundings.settings words held)
      fun _ => True := by
  unfold Run.prepare
  match asked : Config.resolve surroundings.settings words with
  | .error (.usage fault) =>
      simp only [asked]
      exact fun _ _ => trivial
  | .error (.inconsistent reason) =>
      simp only [asked]
      exact fun _ _ => trivial
  | .ok .help =>
      simp only [asked]
      exact fun _ _ => trivial
  | .ok (.run config) =>
      simp only [asked]
      refine Attempts.andThen (Attempts.adapt
        ((holds.configure _ _ _).attempts fun _ _ => trivial)) fun _ => ?_
      refine Attempts.andThen
        ((Keeps.lift (holds.report _ _ (by decide))).attempts fun _ _ => trivial) fun _ => ?_
      exact holds.report.checkFiles asked

theorem IsHeldByLogging.ready (holds : IsHeldByLogging held) (first : held world)
    (prepared : Run.prepare surroundings words world = (.ok (.ready config), next)) :
    Config.resolve surroundings.settings words = .ok (.run config) ∧ held next := by
  have ended : ifGiven (IsReadyFor surroundings.settings words held) (fun _ => True)
      (Run.prepare surroundings words world).1 (Run.prepare surroundings words world).2 :=
    holds.prepare world first
  rw [prepared] at ended
  exact ended

def Surroundings.job (surroundings : Surroundings) (config : Config) (story : Story) (output : Path)
    (templates : Template.Overrides) : Job where
  story := story
  output := output
  templates := templates
  imageDirectory := config.imageDirectory
  language := config.language
  maxStates := surroundings.settings.maxStates
  debug := config.debug

theorem makePlan_of_site {output : Path} (formed : formOf config = .ok (.site, output)) :
    makePlan surroundings config story = (do
      onFiles .files (makeAllDirectories false output)
      let templates ← loadTemplates config
      return .site (surroundings.job config story output templates)) := by
  unfold makePlan
  rw [formed]
  rfl

theorem makePlan_of_book {author : Text} {output : Path}
    (formed : formOf config = .ok (.book author, output)) :
    makePlan surroundings config story = (do
      let templates ← loadTemplates config
      return .book (surroundings.job config story output templates)
        (surroundings.edition config author)) := by
  unfold makePlan
  rw [formed]
  rfl

theorem makePlan_of_usage {fault : UsageFault} (formed : formOf config = .error fault) :
    makePlan surroundings config story = throw (.usage fault) := by
  unfold makePlan
  rw [formed]
  rfl

end Gamebook.Run
