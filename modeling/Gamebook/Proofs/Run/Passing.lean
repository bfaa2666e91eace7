import Gamebook.Proofs.Effects
import Gamebook.Run.Build

/-!
What a run comes to when nothing stands in its way: the story is judged in the world that the reports
before it have left.
-/

namespace Gamebook.Run

open Gamebook.Text Gamebook.Files

variable {surroundings : Surroundings} {words : List Text} {world : World} {config : Config}
  {path : Path} {text : Text} {checked : Story.Checked}

def World.configured (world : World) (level : Option Text) (debug : Bool) : World :=
  if world.logging.configured then world
  else { world with logging := ⟨Log.Level.ofName level debug, [.console], true⟩ }

def World.resolved (world : World) (surroundings : Surroundings) (config : Config) : World :=
  (world.configured surroundings.settings.logLevel config.debug).report .debug
    ("Resolved configuration: " ++ config.print)

theorem configureLogging_none (level : Option Text) (debug : Bool) (world : World) :
    (configureLogging level none debug).run world = (.ok (), world.configured level debug) := by
  obtain ⟨files, ⟨threshold, handlers, configured⟩, diagnostics, printed⟩ := world
  cases configured <;> rfl

theorem configureLogging_of_configured {level : Option Text} {logPath : Option Path} {debug : Bool}
    (configured : world.logging.configured = true) :
    (configureLogging level logPath debug).run world = (.ok (), world) := by
  obtain ⟨files, ⟨threshold, handlers, configured⟩, diagnostics, printed⟩ := world
  cases configured
  rfl

theorem adapt_of_ok {fault ε α : Type} {wrap : fault → ε} {action : ExceptT fault (StateM World) α}
    {next : World} {value : α} (given : action.run world = (.ok value, next)) :
    (action.adapt wrap).run world = (.ok value, next) := by
  change ((action.run world).1.mapError wrap, (action.run world).2) = _
  rw [given]
  rfl

theorem adapt_of_error {fault ε α : Type} {wrap : fault → ε} {action : ExceptT fault (StateM World) α}
    {next : World} {cause : fault} (failed : action.run world = (.error cause, next)) :
    (action.adapt wrap).run world = (.error (wrap cause), next) := by
  change ((action.run world).1.mapError wrap, (action.run world).2) = _
  rw [failed]
  rfl

theorem run_eq_runConfig (noLog : surroundings.settings.logPath = none)
    (asked : Config.resolve surroundings.settings words = .ok (.run config)) :
    (run surroundings words).run world =
      (runConfig surroundings config).run (world.resolved surroundings config) := by
  unfold run
  simp only [asked, noLog]
  rw [run_andThen (adapt_of_ok (configureLogging_none _ _ world))]
  exact run_andThen rfl

theorem preflight_eq (passed : Preflight.check world.files config = ([], .ok none)) :
    (preflight config).run world = (.ok none, world) := by
  unfold preflight
  rw [run_get, passed]
  rfl

theorem readSource_eq (rendering : config.mode = .render) (asked : config.inputPath = some path)
    (read : world.files.readMarkedText path = .ok text) :
    (readSource surroundings config).run world =
      (.ok text, world.report .log "Parsing story...") := by
  have looked : (onFiles id (inspect fun tree => tree.readMarkedText path)).run world =
      (.ok text, world) := by
    change onFiles id _ world = _
    simp only [onFiles, inspect, read]
  unfold readSource
  rw [rendering, asked]
  simp only
  rw [run_andThen looked]
  rfl

theorem readStory_eq (rendering : config.mode = .render) (asked : config.inputPath = some path)
    (read : world.files.readMarkedText path = .ok text) :
    readStory surroundings config world =
      ((Story.ofText text).mapError .story, world.report .log "Parsing story...") := by
  unfold readStory
  rw [run_bind (readSource_eq rendering asked read)]
  rfl

/-- The story is judged as soon as the files have been checked and it has been read. -/
theorem runConfig_eq_judge (rendering : config.mode = .render) (asked : config.inputPath = some path)
    (passed : Preflight.check world.files config = ([], .ok none))
    (read : world.files.readMarkedText path = .ok text) (parsed : Story.ofText text = .ok checked) :
    (runConfig surroundings config).run world =
      (liftM (judge surroundings config checked) : Action Escape Outcome).run
        (world.report .log "Parsing story...") := by
  have notLint : config.isLint = false := by simp [Config.isLint, rendering]
  have story : readStory surroundings config world =
      (.ok checked, world.report .log "Parsing story...") := by
    rw [readStory_eq rendering asked read, parsed]
    rfl
  unfold runConfig
  rw [notLint, if_neg Bool.false_ne_true, run_andThen (adapt_of_ok (preflight_eq passed))]
  have judged : readAndJudge surroundings config world =
      judge surroundings config checked (world.report .log "Parsing story...") := run_bind story
  change ((.ok (readAndJudge surroundings config world).1 : Except Escape Outcome),
    (readAndJudge surroundings config world).2) = _
  rw [judged]
  rfl

end Gamebook.Run
