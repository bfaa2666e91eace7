import Gamebook.Proofs.Run.Agreement
import Gamebook.Proofs.Run.Testing

/-!
What gets out of a run. Whatever goes wrong on the way is caught and told as an outcome, but for two
things: a log file that cannot be opened, and a test of the files that cannot be answered.
-/

namespace Gamebook.Run

open Gamebook.Text Gamebook.Files

variable {surroundings : Surroundings} {words : List Text} {config : Config} {world next : World}
  {files : FileTree} {path : Path} {fault : Files.Fault} {escape : Escape} {settings : Settings}
  {level : Option Text} {logPath : Option Path} {debug : Bool} {ε α : Type}

theorem checked_of_lint (lint : config.isLint = true) (format : config.format = Config.lintFormat) :
    config.checked = .ok config := by
  simp [Config.checked, lint, format]

theorem checked_of_render (rendering : config.isLint = false) (format : config.format ≠ Config.lintFormat)
    (input : config.inputPath ≠ none)
    (output : config.format = Config.htmlFormat ∨ config.format = Config.epubFormat → config.output ≠ none) :
    config.checked = .ok config := by
  unfold Config.checked
  rw [if_neg (by simp [rendering, format]), if_neg (by simp [rendering]), if_neg input, if_neg]
  simpa using output

theorem usualOutput_ne_none {format : Text} (made : format = Config.htmlFormat ∨ format = Config.epubFormat) :
    Config.usualOutput settings format ≠ none := by
  rcases made with rfl | rfl
  · simp [Config.usualOutput]
  · simp [Config.usualOutput, show Config.epubFormat ≠ Config.htmlFormat by decide]

/-- Only a usage error keeps a command line from being resolved. -/
theorem usage_of_resolve {reason : Config.ResolveFault}
    (refused : Config.resolve settings words = .error reason) : ∃ cause, reason = .usage cause := by
  have ofOptions : ∀ options, Config.ofOptions settings options = .error reason →
      ∃ cause, reason = .usage cause := by
    intro options refused
    unfold Config.ofOptions at refused
    dsimp only at refused
    split at refused
    · rw [checked_of_lint rfl rfl] at refused
      cases refused
    · rename_i notLint
      split at refused
      · rename_i format input asked _
        rw [checked_of_render rfl (fun same => notLint (same ▸ asked)) (Option.some_ne_none _)] at refused
        · cases refused
        · intro made
          dsimp only
          split
          · exact Option.some_ne_none _
          · exact usualOutput_ne_none made
      · cases refused
        exact ⟨_, rfl⟩
  unfold Config.resolve at refused
  split at refused
  · cases refused
  · split at refused
    · cases refused
    · split at refused
      · cases refused
        exact ⟨_, rfl⟩
      · rename_i options _
        cases formed : Config.ofOptions settings options with
        | error cause =>
            rw [formed] at refused
            cases refused
            exact ofOptions options formed
        | ok result =>
            rw [formed] at refused
            cases refused

/-- Opens a log file, which is made if it is missing, as are the directories above it. -/
def openLog (path : Path) : FileAction Path := do
  makeAllDirectories true path.parent
  let file := (⟨.root, (← get).workingDirectory⟩ : Path).absolute path
  appendBytes file .empty
  return file

theorem onFiles_done {wrap : Fault → ε} {action : FileAction α} {value : α}
    (done : action world.files = (.ok value, files)) :
    (onFiles wrap action).run world = (.ok value, { world with files }) := by
  change onFiles wrap action world = _
  unfold onFiles
  rw [done]

theorem onFiles_failing {wrap : Fault → ε} {action : FileAction α}
    (failed : action world.files = (.error fault, files)) :
    (onFiles wrap action).run world = (.error (wrap fault), { world with files }) := by
  change onFiles wrap action world = _
  unfold onFiles
  rw [failed]

/-- The world as it is when the log file is opened: records go to the console by then. -/
def World.onConsole (world : World) (level : Option Text) (debug : Bool) : World :=
  { world with logging := { world.logging with
      threshold := Log.Level.ofName level debug, handlers := [.console] } }

theorem configureLogging_some (fresh : world.logging.configured = false) :
    (configureLogging level (some path) debug).run world = (do
      let file ← onFiles id (openLog path)
      modify fun world => { world with
        logging := { world.logging with handlers := [.console, .file file], configured := true } } :
      Action Fault Unit).run (world.onConsole level debug) := by
  have start : (configureLogging level (some path) debug).run world = (do
      onFiles id (makeAllDirectories true path.parent)
      let file := (⟨.root, (← get).files.workingDirectory⟩ : Path).absolute path
      onFiles id (appendBytes file .empty)
      modify fun world =>
        { world with logging := { world.logging with handlers := [.console, .file file] } }
      modify fun world => { world with logging := { world.logging with configured := true } } :
      Action Fault Unit).run (world.onConsole level debug) := by
    obtain ⟨files, ⟨threshold, handlers, configured⟩, diagnostics, printed⟩ := world
    cases fresh
    rfl
  rw [start]
  generalize world.onConsole level debug = world
  cases made : makeAllDirectories true path.parent world.files with
  | mk result above =>
    cases result with
    | error cause =>
        have first : openLog path world.files = _ := run_failing made
        rw [run_failing (onFiles_failing made), run_failing (onFiles_failing first)]
    | ok _ =>
        have first : openLog path world.files = _ := (run_andThen made).trans run_get
        rw [run_andThen (onFiles_done made), run_get]
        cases opened : appendBytes ((⟨.root, above.workingDirectory⟩ : Path).absolute path) .empty above with
        | mk result files =>
          cases result with
          | error cause =>
              have second := first.trans (run_failing opened)
              rw [run_failing (onFiles_failing opened), run_failing (onFiles_failing second)]
          | ok _ =>
              have second : openLog path world.files = _ := first.trans (run_andThen opened)
              rw [run_andThen (onFiles_done opened), run_andThen (onFiles_done second)]
              rfl

/-- Setting logging up fails where it is done for the first time and the log file cannot be opened. -/
theorem configureLogging_fails : ((configureLogging level logPath debug).run world).1 = .error fault ↔
    world.logging.configured = false ∧
      ∃ path, logPath = some path ∧ (openLog path world.files).1 = .error fault := by
  cases logPath with
  | none =>
      rw [configureLogging_none]
      exact ⟨nofun, fun ⟨_, _, named, _⟩ => nomatch named⟩
  | some path =>
      cases fresh : world.logging.configured with
      | true =>
          rw [configureLogging_of_configured fresh]
          exact ⟨nofun, nofun⟩
      | false =>
          rw [configureLogging_some fresh]
          cases opened : openLog path world.files with
          | mk result files =>
              have started : openLog path (world.onConsole level debug).files = (result, files) := opened
              cases result with
              | error cause =>
                  rw [run_failing (onFiles_failing started)]
                  simp [opened]
              | ok file =>
                  rw [run_andThen (onFiles_done started)]
                  exact ⟨nofun, fun ⟨_, _, same, failed⟩ => by
                    cases same
                    rw [opened] at failed
                    cases failed⟩

/-- All that a run does to set itself up before it tests the files. -/
def setUp (surroundings : Surroundings) (config : Config) : Action Escape Unit := do
  (configureLogging surroundings.settings.logLevel surroundings.settings.logPath config.debug).adapt .logging
  report .debug ("Resolved configuration: " ++ config.print)

/-- Logging is set up for the first time, and its file cannot be opened for this reason. -/
def Settings.FailsToLog (settings : Settings) (world : World) (fault : Fault) : Prop :=
  world.logging.configured = false ∧
    ∃ path, settings.logPath = some path ∧ (openLog path world.files).1 = .error fault

theorem setUp_fails : ((setUp surroundings config).run world).1 = .error escape ↔
    ∃ fault, escape = .logging fault ∧ surroundings.settings.FailsToLog world fault := by
  have failing := fun fault => @configureLogging_fails world fault surroundings.settings.logLevel
    surroundings.settings.logPath config.debug
  unfold setUp Settings.FailsToLog
  cases configured : (configureLogging surroundings.settings.logLevel surroundings.settings.logPath
      config.debug).run world with
  | mk result next =>
      rw [configured] at failing
      cases result with
      | error cause =>
          have adapted : ((configureLogging surroundings.settings.logLevel
              surroundings.settings.logPath config.debug).adapt Escape.logging).run world =
              (.error (.logging cause), next) := adapt_of_error configured
          rw [run_failing adapted]
          simp only [← failing, Except.error.injEq]
          exact ⟨fun same => ⟨cause, same.symm, rfl⟩, fun ⟨_, same, cause⟩ => by rw [same, cause]⟩
      | ok _ =>
          rw [run_andThen (adapt_of_ok configured)]
          simp only [← failing, reduceCtorEq, and_false, exists_false, iff_false]
          exact nofun

/-- The tests of the files that the run makes, if it makes any, are answered. -/
def IsAnswered (surroundings : Surroundings) (words : List Text) (world : World) : Prop :=
  ∀ config next, Config.resolve surroundings.settings words = .ok (.run config) →
    config.isLint = false → (setUp surroundings config).run world = (.ok (), next) →
      ∀ path ∈ config.testedPaths, next.files.testFault? path = none

theorem run_of_config (asked : Config.resolve surroundings.settings words = .ok (.run config)) :
    run surroundings words = setUp surroundings config >>= fun _ => runConfig surroundings config := by
  unfold run setUp
  simp only [asked, bind_assoc]

theorem runConfig_gives (answered : config.isLint = false →
      ∀ path ∈ config.testedPaths, world.files.testFault? path = none) :
    ∃ outcome final, (runConfig surroundings config).run world = (.ok outcome, final) := by
  obtain ⟨prepared, next, tested⟩ := checkFiles_gives answered
  rw [runConfig_eq_finish, run_andThen tested]
  match prepared with
  | .over outcome => exact ⟨outcome, next, rfl⟩
  | .ready config => exact ⟨_, _, rfl⟩

/-- A run that asks for no story to be read is over at once. -/
theorem run_gives_of_no_config
    (asked : ∀ config, Config.resolve surroundings.settings words ≠ .ok (.run config)) :
    ∃ outcome final, (run surroundings words).run world = (.ok outcome, final) := by
  unfold run
  dsimp only
  split
  · exact ⟨_, _, rfl⟩
  · rename_i reason refused
    obtain ⟨cause, same⟩ := usage_of_resolve refused
    cases same
  · exact ⟨_, _, rfl⟩
  · rename_i config resolved
    exact (asked config resolved).elim

/-- A run whose tests of files are answered comes to an outcome, unless it cannot open its log file. -/
theorem run_escapes_iff (answered : IsAnswered surroundings words world) :
    (run surroundings words world).1 = .error escape ↔ ∃ fault, escape = .logging fault ∧
      surroundings.settings.FailsToLog world fault ∧
      ∃ config, Config.resolve surroundings.settings words = .ok (.run config) := by
  change ((run surroundings words).run world).1 = _ ↔ _
  by_cases asked : ∃ config, Config.resolve surroundings.settings words = .ok (.run config)
  · simp only [asked, and_true]
    obtain ⟨config, asked⟩ := asked
    rw [← @setUp_fails surroundings config, run_of_config asked]
    cases started : (setUp surroundings config).run world with
    | mk result next =>
        cases result with
        | error cause =>
            rw [run_failing started]
            simp
        | ok _ =>
            obtain ⟨outcome, final, given⟩ :=
              @runConfig_gives surroundings config next fun rendering =>
                answered config next asked rendering started
            rw [run_andThen started, given]
            exact ⟨nofun, nofun⟩
  · obtain ⟨outcome, final, given⟩ := @run_gives_of_no_config surroundings words world
      fun config resolved => asked ⟨config, resolved⟩
    rw [given]
    exact ⟨nofun, fun ⟨_, _, _, resolved⟩ => (asked resolved).elim⟩

theorem isAnswered_of_tests (asked : Config.resolve surroundings.settings words = .ok (.run config))
    (tested : ∀ path ∈ config.testedPaths,
      ((setUp surroundings config).run world).2.files.testFault? path = none) :
    IsAnswered surroundings words world := by
  intro other next resolved _ started
  rw [asked] at resolved
  cases resolved
  rw [started] at tested
  exact tested

def loggedSurroundings (logPath : Path) : Surroundings :=
  { usualSurroundings with settings := { usualSurroundings.settings with logPath := some logPath } }

theorem run_escapes_iff_logged :
    IsAnswered (loggedSurroundings "logs/run.log") siteWords { files := shortFiles } ∧
      ∃ outcome, (run (loggedSurroundings "logs/run.log") siteWords { files := shortFiles }).1 =
        .ok outcome := by
  have answered : IsAnswered (loggedSurroundings "logs/run.log") siteWords { files := shortFiles } :=
    @isAnswered_of_tests _ _ siteConfig _ rfl (by decide +kernel)
  refine ⟨answered, ?_⟩
  cases ended : (run (loggedSurroundings "logs/run.log") siteWords { files := shortFiles }).1 with
  | ok outcome => exact ⟨outcome, rfl⟩
  | error escape =>
      obtain ⟨fault, -, ⟨-, path, named, failed⟩, -⟩ := (run_escapes_iff answered).mp ended
      cases named
      have opened : (openLog "logs/run.log" shortFiles).1 = .ok ⟨.root, ["logs", "run.log"]⟩ := by
        decide +kernel
      rw [opened] at failed
      cases failed

/-- A log file below the story, which is no directory, cannot be opened, and its fault gets out. -/
theorem log_below_story_escapes :
    IsAnswered (loggedSurroundings "story.md/run.log") siteWords { files := shortFiles } ∧
      (run (loggedSurroundings "story.md/run.log") siteWords { files := shortFiles }).1 =
        .error (.logging (.refused .alreadyExists "story.md")) := by
  refine ⟨@isAnswered_of_tests _ _ siteConfig _ rfl (by decide +kernel), ?_⟩
  have failed : ((setUp (loggedSurroundings "story.md/run.log") siteConfig).run { files := shortFiles }).1 =
      .error (.logging (.refused .alreadyExists "story.md")) := by decide +kernel
  have asked : Config.resolve (loggedSurroundings "story.md/run.log").settings siteWords =
      .ok (.run siteConfig) := rfl
  rw [run_of_config asked]
  exact congrArg Prod.fst (run_failing (Prod.ext failed rfl))

end Gamebook.Run
