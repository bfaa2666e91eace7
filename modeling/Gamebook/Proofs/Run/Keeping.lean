import Gamebook.Proofs.Run.Passing
import Gamebook.Proofs.Run.Rendering
import Gamebook.Proofs.Story.Closed

/-!
The files that are there before a run are there afterwards with what they held. Only a book can take
the place of one, and only through a path that leads up again from a directory that was missing.
-/

namespace Gamebook.Run

open Gamebook.Text Gamebook.Files Gamebook.Files.FileTree

variable {tree : FileTree} {surroundings : Surroundings} {config : Config} {words : List Text}
  {world : World} {location : Location} {content : Content}

theorem keeps_readSource {held : FileTree → Prop} :
    Keeps (Quietly held) (readSource surroundings config) := by
  unfold readSource
  split
  · exact Keeps.andThen (keeps_onFiles (keeps_inspect _)) fun text =>
      Keeps.andThen (Keeps.lift (keeps_report _ _)) fun _ => Keeps.pure _
  · exact Keeps.pure _

theorem keeps_readStory {held : FileTree → Prop} :
    Keeps (Quietly held) (readStory surroundings config) := by
  refine Keeps.bind keeps_readSource fun source => ?_
  cases source with
  | error fault => exact Keeps.pure _
  | ok text => exact Keeps.pure _

/-- What a run of a configuration leaves: the files that were there, but for a book where one was
rendered; and a story is rendered only if that is asked for. -/
def IsSettled (tree : FileTree) (config : Config) (outcome : Outcome) (world : World) : Prop :=
  (outcome.ending = .rendered → config.isLint = false) ∧
    Quietly (tree.HoldsBookAt (config.WritesBook tree outcome)) world

theorem IsSettled.of_unrendered {outcome : Outcome} (unrendered : outcome.ending ≠ .rendered)
    (kept : Quietly (· = tree) world) : IsSettled tree config outcome world :=
  ⟨fun rendered => (unrendered rendered).elim, kept.1,
    holdsBookAt_of_unrendered unrendered (kept.2 ▸ .refl _ _)⟩

theorem ensures_judge (wellFormed : tree.WellFormed) (checked : Story.Checked) :
    Ensures (Quietly (· = tree)) (judge surroundings config checked) (IsSettled tree config) := by
  unfold judge
  refine Ensures.bind (Keeps.forM (fun line => keeps_report _ line) _) fun _ => ?_
  split
  · exact Ensures.pure fun world kept => .of_unrendered nofun kept
  · rename_i rendering
    split
    · exact (ensures_render wellFormed).weaken fun _ _ held =>
        ⟨fun _ => Bool.eq_false_iff.mpr rendering, held⟩
    · exact Ensures.pure fun world kept => .of_unrendered nofun kept

theorem ensures_readAndJudge (wellFormed : tree.WellFormed) :
    Ensures (Quietly (· = tree)) (readAndJudge surroundings config) (IsSettled tree config) := by
  refine Ensures.bind keeps_readStory fun read => ?_
  cases read with
  | error fault =>
      refine (ensures_fatal _ _).weaken fun outcome world ⟨ended, kept⟩ => .of_unrendered ?_ kept
      rw [ended]
      nofun
  | ok checked => exact ensures_judge wellFormed checked

theorem attempts_preflight : Attempts (Quietly (· = tree)) (preflight config)
    (fun fault world => (Preflight.check tree config).2 = .ok fault ∧ Quietly (· = tree) world)
    (Quietly (· = tree)) := by
  unfold preflight
  refine Attempts.andThen Attempts.get ?_
  rintro seen world ⟨rfl, kept⟩
  rw [show Preflight.check seen.files config = Preflight.check tree config from
    congrArg (Preflight.check · config) kept.2]
  cases Preflight.check tree config with
  | mk remarks result =>
      have told : Keeps (Quietly (· = tree))
          (remarks.forM fun remark => liftM (report .error remark) : Action Files.Fault PUnit) :=
        Keeps.tryForM (fun remark => Keeps.lift (keeps_report _ _)) remarks
      exact Attempts.andThen (told.attempts fun _ => id) (fun _ => Attempts.ofExcept fun _ => id) seen kept

theorem firstFault_of_check (passed : (Preflight.check tree config).2 = .ok none) :
    Preflight.firstFault tree config = .ok none := by
  unfold Preflight.check at passed
  split at passed
  · cases passed
  · cases passed
  · assumption

/-- Where nothing stands in the way, neither the output nor the templates do. -/
theorem faults_of_check (passed : (Preflight.check tree config).2 = .ok none) :
    Preflight.outputFault tree config = .ok none ∧ Preflight.templateFault tree config = .ok none := by
  have first := firstFault_of_check passed
  unfold Preflight.firstFault at first
  obtain ⟨found, _, first⟩ := bind_eq_ok.mp first
  cases found with
  | some fault => cases first
  | none =>
      obtain ⟨taken, free, first⟩ := bind_eq_ok.mp first
      cases taken with
      | some fault => cases first
      | none => exact ⟨free, first⟩

theorem isFile_of_check {output : Path} (passed : (Preflight.check tree config).2 = .ok none)
    (asked : config.output = some output) : tree.isFile output = false := by
  have free := (faults_of_check passed).1
  unfold Preflight.outputFault at free
  rw [asked] at free
  cases tested : tree.testDirectory output with
  | error fault => simp [tested, bind, Except.bind] at free
  | ok directory =>
      cases file : tree.isFile output with
      | false => rfl
      | true => simp [tested, file, bind, Except.bind, pure, Except.pure] at free

theorem attempts_runConfig (wellFormed : tree.WellFormed) :
    Attempts (Quietly (· = tree)) (runConfig surroundings config)
      (fun outcome world => IsSettled tree config outcome world ∧
        (outcome.ending = .rendered → (Preflight.check tree config).2 = .ok none))
      (Quietly (· = tree)) := by
  unfold runConfig
  split
  · rename_i lint
    refine Attempts.lift ((ensures_readAndJudge wellFormed).weaken fun outcome world settled => ?_)
    refine ⟨settled, fun rendered => ?_⟩
    rw [settled.1 rendered] at lint
    cases lint
  · refine Attempts.andThen (Attempts.adapt attempts_preflight) fun found => ?_
    rintro world ⟨passed, kept⟩
    cases found with
    | some fault =>
        refine Attempts.andThen ((Keeps.lift (keeps_report _ _)).attempts fun _ => id) (fun _ => ?_) world kept
        exact Attempts.pure fun world kept => ⟨.of_unrendered nofun kept, nofun⟩
    | none =>
        refine Attempts.lift ((ensures_readAndJudge wellFormed).weaken fun outcome world settled => ?_) world kept
        exact ⟨settled, fun _ => passed⟩

theorem keeps_run_of_no_config {held : FileTree → Prop}
    (asked : ∀ config, Config.resolve surroundings.settings words ≠ .ok (.run config)) :
    Keeps (Quietly held) (run surroundings words) := by
  have shown : ∀ outcome, Keeps (Quietly held) (liftM (present outcome) : Action Escape Outcome) :=
    fun outcome => Keeps.lift ((ensures_present outcome).weaken fun _ _ => And.right)
  unfold run
  dsimp only
  split
  · exact shown _
  · exact Keeps.throw _
  · exact shown _
  · rename_i config resolved
    exact (asked config resolved).elim

theorem attempts_run (noLog : surroundings.settings.logPath = none) (wellFormed : tree.WellFormed)
    (asked : Config.resolve surroundings.settings words = .ok (.run config)) :
    Attempts (Quietly (· = tree)) (run surroundings words)
      (fun outcome world => IsSettled tree config outcome world ∧
        (outcome.ending = .rendered → (Preflight.check tree config).2 = .ok none))
      (Quietly (· = tree)) := by
  unfold run
  simp only [asked, noLog]
  refine Attempts.andThen (Attempts.adapt ((keeps_configureLogging _ _).attempts fun _ => id))
    fun _ => ?_
  exact Attempts.andThen ((Keeps.lift (keeps_report _ _)).attempts fun _ => id)
    fun _ => attempts_runConfig wellFormed

/-- A run renders a book that takes this place. -/
def RendersBookAt (surroundings : Surroundings) (words : List Text) (world : World)
    (location : Location) : Prop :=
  ∃ config outcome, Config.resolve surroundings.settings words = .ok (.run config) ∧
    (run surroundings words world).1 = .ok outcome ∧ config.WritesBook world.files outcome location

def shortSource : Text := "# [A](/a)\n## A\n"

def shortStory : Story where
  name := "A"
  description := []
  firstScene := "a"
  scenes := [("a", [⟨"a", "A", [], 2, .empty, []⟩])]

theorem ofText_shortSource : Story.ofText shortSource = .ok ⟨shortStory, [], []⟩ := by
  have cut : Source.Block.ofText (shortSource.dropWhile Story.isByteOrderMark) =
      [⟨⟨1, "[A](/a)".toList⟩, 1, []⟩, ⟨⟨2, "A".toList⟩, 2, []⟩] := by decide +kernel
  have reached : shortStory.orphans = [] := by
    simp [Story.orphans, Story.unreachedFrom, shortStory, Story.stops, Story.allScenes,
      Story.allActions, Story.stopsAt, Story.stopsElsewhere]
  have silent : shortStory.referenceWarnings = [] :=
    Story.referenceWarnings_eq_nil.mpr (by decide +kernel)
  rw [Story.ofText, cut, Story.ofBlocks_of_silent rfl (by decide +kernel) (by decide +kernel) rfl
    silent, reached]

def storyName : Text := "story.md"

def shortFiles : FileTree := ({} : FileTree).put [storyName] (.file (.ofText shortSource))

theorem wellFormed_shortFiles : shortFiles.WellFormed :=
  wellFormed_empty.put ⟨by decide, [], storyName, rfl, rfl, by decide⟩

def usualSurroundings : Surroundings where
  settings := {
    home := "home"
    logMaxBytes := Bounded.logMaxBytes.usual
    logBackupCount := Bounded.logBackupCount.usual
    maxStates := Bounded.maxStates.usual }
  now := "2001-02-03T04:05:06Z"
  newIdentifier := "urn:uuid:00000000-0000-4000-8000-000000000000"

def siteWords : List Text := ["--format", "html", "--in", "story.md", "--out", "site"]

/-- A book that goes to the place of its own story, by way of a directory that is missing. -/
def coveringWords : List Text :=
  ["--format", "epub", "--in", "story.md", "--out", "new/../story.md", "--author", "A"]

def coveringConfig : Config where
  mode := .render
  format := Config.epubFormat
  inputPath := some "story.md"
  output := some "new/../story.md"
  author := some "A".toList

end Gamebook.Run
