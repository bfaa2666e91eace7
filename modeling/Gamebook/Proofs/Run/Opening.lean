import Gamebook.Proofs.Files.Naming
import Gamebook.Proofs.Run.Escaping
import Gamebook.Proofs.Run.Logging

/-!
What a run changes among the files besides what it publishes: the log files, and directories on the ways
that lead to them.
-/

namespace Gamebook.Run

open Gamebook.Text Gamebook.Files Gamebook.Files.FileTree Gamebook.Log

variable {world before middle after next : World} {ways : List Path} {location : Location}
  {path : Path} {held : FileTree → Prop} {kept : World → Prop} {ε α : Type}
  {level : Option Text} {logPath : Option Path} {debug : Bool}

namespace World

/-- A log file stands here. -/
def LogsTo (world : World) (location : Location) : Prop :=
  ∃ path content, .file path ∈ world.logging.handlers ∧
    world.files.find path = .ok (.taken location (.file content))

/-- The files are as they should be, and the log files are there. -/
structure IsSound (world : World) : Prop where
  wellFormed : world.files.WellFormed
  logs : world.LogsAt fun _ => True

theorem IsSound.logsAt (sound : world.IsSound) : world.LogsAt world.LogsTo := by
  intro path member
  obtain ⟨location, content, found, _⟩ := sound.logs path member
  exact ⟨location, content, found, path, content, member, found⟩

/-- Where the log files stand does not change as long as they are kept. -/
theorem IsSound.logsTo_eq {written : Location → Prop} (sound : before.IsSound)
    (same : after.logging = before.logging) (preserved : PreservesOutside written before.files after.files) :
    after.LogsTo = before.LogsTo := by
  funext location
  refine propext ⟨?_, ?_⟩
  · rintro ⟨path, content, member, found⟩
    rw [same] at member
    obtain ⟨own, old, leads, _⟩ := sound.logs path member
    obtain ⟨current, stays⟩ := preserved.find_file sound.wellFormed leads
    rw [stays] at found
    cases found
    exact ⟨path, old, member, leads⟩
  · rintro ⟨path, content, member, found⟩
    obtain ⟨current, stays⟩ := preserved.find_file sound.wellFormed found
    exact ⟨path, current, same.symm ▸ member, stays⟩

/-- All stays as it should be if other files come in which those of before are kept. -/
theorem IsSound.withFiles {written : Location → Prop} {files : FileTree} (sound : world.IsSound)
    (wellFormed : files.WellFormed) (preserved : PreservesOutside written world.files files) :
    ({ world with files } : World).IsSound :=
  ⟨wellFormed, sound.logs.preserved sound.wellFormed preserved rfl⟩

theorem emit_logging (world : World) (record : Record) :
    (world.emit record).logging = world.logging := by
  have delivered : ∀ (handlers : List Handler) (world : World),
      (handlers.foldl (deliver record) world).logging = world.logging := by
    intro handlers
    induction handlers with
    | nil => exact fun _ => rfl
    | cons handler handlers ih => exact fun world => ih (world.deliver record handler)
  unfold emit
  split
  · rfl
  · exact delivered _ world

theorem report_logging (world : World) (channel : Channel) (text : String) :
    (world.report channel text).logging = world.logging := by
  unfold report
  dsimp only
  split
  · rfl
  · exact emit_logging _ _

/-- The handlers of log records are those of before. Since then only the log files have changed, and
directories have been made only on these ways. -/
structure OpensWays (ways : List Path) (before after : World) : Prop where
  logging : after.logging = before.logging
  files : IsLogging before.LogsTo (FileTree.OpensWays before.LogsTo ways before.files) after

namespace OpensWays

theorem refl (ways : List Path) (sound : before.IsSound) : before.OpensWays ways before :=
  ⟨rfl, sound.wellFormed, sound.logsAt, .refl _ _ _⟩

theorem isSound (opened : before.OpensWays ways after) : after.IsSound where
  wellFormed := opened.files.wellFormed
  logs := fun path member => by
    obtain ⟨location, content, found, _⟩ := opened.files.logs path member
    exact ⟨location, content, found, trivial⟩

theorem preserves (opened : before.OpensWays ways after) :
    PreservesOutside before.LogsTo before.files after.files :=
  ChangesOnly.preserves opened.files.held

theorem isDirectory (opened : before.OpensWays ways after) (sound : before.IsSound)
    (inside : before.files.isDirectory path = true) : after.files.isDirectory path = true := by
  obtain ⟨place, found⟩ := isDirectory_iff.mp inside
  exact isDirectory_iff.mpr ⟨place, opened.preserves.find_directory sound.wellFormed found⟩

theorem file_iff {content : Content} (opened : before.OpensWays ways after)
    (outside : ¬ before.LogsTo location) :
    after.files.entry? location = some (.file content) ↔
      before.files.entry? location = some (.file content) :=
  ChangesOnly.file_iff opened.files.held outside

/-- The log files stand where they stood. -/
theorem logsTo_eq (opened : before.OpensWays ways after) (sound : before.IsSound) :
    after.LogsTo = before.LogsTo := sound.logsTo_eq opened.logging opened.preserves

theorem trans (first : before.OpensWays ways middle) (sound : before.IsSound)
    (second : middle.OpensWays ways after) : before.OpensWays ways after := by
  have same := first.logsTo_eq sound
  refine ⟨second.logging.trans first.logging, second.files.wellFormed, same ▸ second.files.logs, ?_⟩
  exact FileTree.OpensWays.trans first.files.held first.files.wellFormed (same ▸ second.files.held)

/-- No name is new but those that the ways are written with. -/
theorem isNamed (opened : before.OpensWays ways after) (sound : before.IsSound)
    (named : before.files.IsNamed) (read : ∀ path ∈ ways, path.IsRead) : after.files.IsNamed := by
  refine named.changed opened.files.held ?_ ?_
  · rintro location ⟨path, content, _, found⟩
    exact named location _ (sound.wellFormed.holds_find found)
  · rintro location ⟨path, member, onWay⟩
    refine onWay.isFileName ?_ (read path member)
    rw [opened.preserves.workingDirectory]
    exact named.workingDirectory sound.wellFormed

end OpensWays

end World

theorem isApart_opensWays {logged : Location → Prop} {start : FileTree} :
    IsApart logged (FileTree.OpensWays logged ways start) :=
  fun _ _ _ wellFormed room place opened => opened.put_file wellFormed room place

theorem keeps_report_ways (channel : Channel) (text : String) :
    Keeps (before.OpensWays ways) (report channel text) := fun world opened =>
  ⟨(world.report_logging channel text).trans opened.logging,
    IsLogging.keeps_report isApart_opensWays.allowsAppending channel text world opened.files⟩

theorem keeps_emit_ways (record : Record) : Keeps (before.OpensWays ways) (emit record) :=
  fun world opened => ⟨(world.emit_logging record).trans opened.logging,
    opened.files.emit isApart_opensWays.allowsAppending⟩

theorem onFiles_eq_ok {wrap : Fault → ε} {action : FileAction α} {value : α} :
    (onFiles wrap action).run world = (.ok value, next) ↔
      ∃ files, action world.files = (.ok value, files) ∧ next = { world with files } := by
  change onFiles wrap action world = _ ↔ _
  unfold onFiles
  cases action world.files with
  | mk result files =>
      cases result with
      | error fault => exact ⟨nofun, nofun⟩
      | ok given =>
          constructor
          · rintro ⟨⟩
            exact ⟨files, rfl, rfl⟩
          · rintro ⟨_, ⟨⟩, rfl⟩
            rfl

/-- Work on the files that only looks at them leaves all as it is. -/
theorem keeps_onFiles_looking {wrap : Fault → ε} {action : FileAction α}
    (looks : ∀ tree, (action tree).2 = tree) : Keeps kept (onFiles wrap action) := by
  intro world holds
  have same := looks world.files
  change kept (onFiles wrap action world).2
  unfold onFiles
  split
  all_goals
    rename_i done
    rw [done] at same
    cases same
    exact holds

theorem keeps_makeAllDirectories_ways {wrap : Fault → ε} {existing : Bool} (way : path ∈ ways) :
    Keeps (before.OpensWays ways) (onFiles wrap (makeAllDirectories existing path)) := by
  rintro world ⟨logging, files⟩
  have made : Keeps (fun tree => tree.WellFormed ∧
      FileTree.OpensWays before.LogsTo ways before.files tree) (makeAllDirectories existing path) := by
    rintro tree ⟨wellFormed, opened⟩
    have added : tree.AddsDirectories (makeDirectories existing path tree).2 :=
      addsDirectories_makeDirectories wellFormed
    refine ⟨added.wellFormed, opened.trans wellFormed ?_⟩
    exact FileTree.OpensWays.weaken (opensWays_makeDirectories wellFormed) (fun _ => False.elim)
      fun other member => List.mem_singleton.mp member ▸ way
  have kept := Attempts.keeps (@IsLogging.attempts_onFiles before.LogsTo _ _ _ _ wrap _ _
    isSafe_makeAllDirectories ((made.attempts fun _ => id).weaken (fun _ _ => And.right)
      fun _ => And.right))
  refine ⟨Eq.trans ?_ logging, kept world files⟩
  unfold onFiles
  split <;> rfl

/-- The ways that are made for a log file, if logging is still to be set up. -/
def logWays (world : World) (logPath : Option Path) : List Path :=
  if world.logging.configured then [] else logPath.toList.map Path.parent

theorem of_openLog {files tree : FileTree} {file : Path} (wellFormed : tree.WellFormed)
    (opened : openLog path tree = (.ok file, files)) :
    ∃ location content, files.WellFormed ∧ files.find file = .ok (.taken location (.file content)) ∧
      FileTree.OpensWays (· = location) [path.parent] tree files ∧
      (tree.IsNamed → path.IsRead → files.IsNamed) := by
  obtain ⟨_, above, made, rest⟩ := ok_of_andThen opened
  obtain ⟨_, _, seen, rest⟩ := ok_of_andThen rest
  cases seen
  obtain ⟨_, _, appended, rest⟩ := ok_of_andThen rest
  cases rest
  have added : tree.AddsDirectories above := addsDirectories_of_made wellFormed made
  have onWays : FileTree.OpensWays (fun _ => False) [path.parent] tree above :=
    opensWays_of_made wellFormed made
  obtain ⟨content, written⟩ := exists_write_of_appendBytes appended
  obtain ⟨spot, found, _, rfl, room, leads⟩ := added.wellFormed.exists_put_of_writeFile written
  have onlyWays : FileTree.OpensWays (· = spot.location) [path.parent] tree above :=
    onWays.weaken (fun _ => False.elim) fun _ => id
  have whole : FileTree.OpensWays (· = spot.location) [path.parent] tree
      (above.put spot.location (.file content)) := onlyWays.put_file added.wellFormed room rfl
  refine ⟨spot.location, content, added.wellFormed.put room, leads, whole, fun named read => ?_⟩
  have start := named.workingDirectory wellFormed
  have stays : above.workingDirectory = tree.workingDirectory := added.preserves.workingDirectory
  have base : (⟨.root, above.workingDirectory⟩ : Path).IsRead := fun part member =>
    have isName := start part (stays ▸ member)
    ⟨isName.1, isName.2.1⟩
  refine named.changed whole ?_ ?_
  · rintro _ rfl
    exact isFileName_of_find (stays ▸ start) (base.absolute read) found
  · rintro location ⟨way, member, onWay⟩
    obtain rfl := List.mem_singleton.mp member
    exact onWay.isFileName (stays ▸ start) read.parent

/-- Setting logging up makes the log file and the directories above it. -/
theorem of_configureLogging (sound : world.IsSound)
    (done : (configureLogging level logPath debug).run world = (.ok (), next)) :
    next.IsSound ∧ FileTree.OpensWays next.LogsTo (logWays world logPath) world.files next.files ∧
      (world.files.IsNamed → (∀ path, logPath = some path → path.IsRead) → next.files.IsNamed) := by
  cases configured : world.logging.configured with
  | true =>
      rw [configureLogging_of_configured configured] at done
      cases done
      exact ⟨sound, .refl _ _ _, fun named _ => named⟩
  | false =>
      cases logPath with
      | none =>
          rw [configureLogging_none, World.configured, configured] at done
          cases done
          exact ⟨⟨sound.wellFormed, by simp [World.LogsAt]⟩, .refl _ _ _, fun named _ => named⟩
      | some path =>
          rw [configureLogging_some configured] at done
          obtain ⟨file, between, opened, rest⟩ := ok_of_andThen done
          cases rest
          obtain ⟨files, given, rfl⟩ := onFiles_eq_ok.mp opened
          obtain ⟨location, content, wellFormed, found, ways, names⟩ := of_openLog sound.wellFormed given
          refine ⟨⟨wellFormed, fun other member => ?_⟩, ?_, fun named read => names named (read path rfl)⟩
          · have member : Handler.file other ∈ [Handler.console, Handler.file file] := member
            obtain rfl : other = file := by simpa using member
            exact ⟨location, content, found, trivial⟩
          · rw [logWays, configured]
            refine FileTree.OpensWays.weaken ways ?_ fun _ => id
            rintro _ rfl
            exact ⟨file, content, by simp, found⟩

theorem adapt_eq_ok {δ : Type} {wrap : δ → ε} {action : ExceptT δ (StateM World) α} {value : α} :
    (action.adapt wrap).run world = (.ok value, next) ↔ action.run world = (.ok value, next) := by
  change ((action.run world).1.mapError wrap, (action.run world).2) = _ ↔ _
  rw [Prod.ext_iff, Prod.ext_iff]
  exact and_congr_left fun _ => mapError_eq_ok

variable {surroundings : Surroundings} {words : List Text} {config : Config} {ready : World}
  {tree : FileTree}

theorem isDirectory_of_tested {fault : Precondition}
    (tested : (do return if ← tree.testDirectory path then none else some fault :
      Except Fault (Option Precondition)) = .ok none) : tree.isDirectory path = true := by
  obtain ⟨inside, found, answer⟩ := bind_eq_ok.mp tested
  unfold FileTree.testDirectory FileTree.tested at found
  split at found
  · cases found
  · cases found
    split at answer
    · assumption
    · cases answer

theorem isDirectory_of_check {images : Path} (passed : (Preflight.check tree config).2 = .ok none)
    (given : config.imageDirectory = some images) : tree.isDirectory images = true := by
  have tested : Preflight.imageFault tree config = .ok none := by
    unfold Preflight.check at passed
    split at passed
    · cases passed
    · cases passed
    · split at passed
      · cases passed
      · exact passed
  unfold Preflight.imageFault at tested
  rw [given] at tested
  exact isDirectory_of_tested tested

theorem isDirectory_templates_of_check {directory : Path}
    (passed : (Preflight.check tree config).2 = .ok none)
    (given : config.templateDirectory = some directory) : tree.isDirectory directory = true := by
  have tested := (faults_of_check passed).2
  unfold Preflight.templateFault at tested
  rw [given] at tested
  exact isDirectory_of_tested tested

/-- What a run that is ready to read its story has come to. -/
structure IsPrepared (surroundings : Surroundings) (words : List Text) (world : World) (config : Config)
    (ready : World) : Prop where
  asked : Config.resolve surroundings.settings words = .ok (.run config)
  sound : ready.IsSound
  opened : FileTree.OpensWays ready.LogsTo (logWays world surroundings.settings.logPath) world.files
    ready.files
  named : world.files.IsNamed → (∀ path, surroundings.settings.logPath = some path → path.IsRead) →
    ready.files.IsNamed
  images {directory : Path} : config.isLint = false → config.imageDirectory = some directory →
    ready.files.isDirectory directory = true
  templates {directory : Path} : config.isLint = false → config.templateDirectory = some directory →
    ready.files.isDirectory directory = true

theorem check_of_checkFiles {other : Config}
    (passed : (checkFiles config).run world = (.ok (.ready other), next)) (rendering : config.isLint = false) :
    (Preflight.check world.files config).2 = .ok none := by
  unfold checkFiles at passed
  rw [rendering, if_neg Bool.false_ne_true] at passed
  obtain ⟨found, between, checked, rest⟩ := ok_of_andThen passed
  cases found with
  | some fault =>
      obtain ⟨_, _, _, finished⟩ := ok_of_andThen rest
      cases finished
  | none =>
      have checked := adapt_eq_ok.mp checked
      unfold preflight at checked
      rw [run_get] at checked
      obtain ⟨_, _, _, answer⟩ := ok_of_andThen checked
      exact (ofExcept_eq_ok.mp answer).1

/-- A run that is ready to read its story has opened its log, told its configuration and tested its files. -/
theorem steps_of_prepare (prepared : prepare surroundings words world = (.ok (.ready config), ready)) :
    ∃ given started, Config.resolve surroundings.settings words = .ok (.run given) ∧
      (configureLogging surroundings.settings.logLevel surroundings.settings.logPath given.debug).run world =
        (.ok (), started) ∧
      (checkFiles given).run (started.report .debug ("Resolved configuration: " ++ given.print)) =
        (.ok (.ready config), ready) := by
  change (prepare surroundings words).run world = _ at prepared
  unfold prepare at prepared
  match asked : Config.resolve surroundings.settings words with
  | .error (.usage fault) =>
      simp only [asked] at prepared
      obtain ⟨_, _, _, finished⟩ := ok_of_andThen prepared
      cases finished
  | .error (.inconsistent reason) =>
      simp only [asked] at prepared
      cases prepared
  | .ok .help =>
      simp only [asked] at prepared
      obtain ⟨_, _, _, finished⟩ := ok_of_andThen prepared
      cases finished
  | .ok (.run given) =>
      simp only [asked] at prepared
      obtain ⟨_, started, configured, rest⟩ := ok_of_andThen prepared
      obtain ⟨_, told, reported, tested⟩ := ok_of_andThen rest
      cases reported
      exact ⟨given, started, rfl, adapt_eq_ok.mp configured, tested⟩

theorem isPrepared_of_prepare (sound : world.IsSound)
    (prepared : prepare surroundings words world = (.ok (.ready config), ready)) :
    IsPrepared surroundings words world config ready := by
  obtain ⟨given, started, asked, configured, tested⟩ := steps_of_prepare prepared
  obtain ⟨soundStart, opened, names⟩ := of_configureLogging sound configured
  have first : started.OpensWays []
      (started.report .debug ("Resolved configuration: " ++ given.print)) :=
    keeps_report_ways .debug _ started (.refl [] soundStart)
  have telling : IsHeldByReports (World.OpensWays []
      (started.report .debug ("Resolved configuration: " ++ given.print))) := fun channel text _ =>
    keeps_report_ways channel text
  have checked := telling.checkFiles asked _ (.refl [] first.isSound)
  rw [tested] at checked
  obtain ⟨resolved, later⟩ := checked
  rw [asked] at resolved
  cases resolved
  have whole := first.trans soundStart later
  have passed := check_of_checkFiles tested
  refine ⟨asked, later.isSound, ?_, fun named read => ?_, fun rendering images => ?_,
    fun rendering templates => ?_⟩
  · rw [whole.logsTo_eq soundStart]
    exact opened.trans soundStart.wellFormed (FileTree.OpensWays.weaken whole.files.held
      (fun _ => id) fun _ => List.not_mem_nil.elim)
  · exact whole.isNamed soundStart (names named read) (List.forall_mem_nil _)
  · exact later.isDirectory first.isSound (isDirectory_of_check (passed rendering) images)
  · exact later.isDirectory first.isSound (isDirectory_templates_of_check (passed rendering) templates)

end Gamebook.Run
