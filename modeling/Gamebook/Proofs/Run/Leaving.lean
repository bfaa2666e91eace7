import Gamebook.Proofs.Run.Agreement

/-!
A run that ends before anything is published leaves the files as they were. That what is to be made is
not known, or lacks an author, is found only when the story has been read, and still nothing is written.
-/

namespace Gamebook.Run

open Gamebook.Text Gamebook.Files

variable {surroundings : Surroundings} {words : List Text} {config : Config} {world : World}
  {held : FileTree → Prop} {tree : FileTree} {story : Story} {outcome : Outcome}

/-- A run ends before anything is published: no story was to be rendered, or it could not be, or it could
not be read. -/
def EndsEarly (outcome : Outcome) (world : World) : Prop :=
  outcome.ending ∈ [.help, .usageError, .preconditionFailed, .linted, .blocked] ∨
    ∃ message, FailsWhile "parsing story" message outcome world

/-- The files are these, if the run ends early. -/
def LeavesEarly (tree : FileTree) (outcome : Outcome) (world : World) : Prop :=
  EndsEarly outcome world → world.files = tree

theorem LeavesEarly.of_quietly (kept : Quietly (· = tree) world) : LeavesEarly tree outcome world :=
  fun _ => kept.2

theorem IsCarriedOut.not_endsEarly {lines : List String} (ended : IsCarriedOut lines outcome world) :
    ¬EndsEarly outcome world := by
  have ending : outcome.ending = .rendered ∨ outcome.ending = .fatal := by
    obtain ⟨_, rendered | ⟨_, fatal, _⟩ | ⟨_, fatal, _⟩⟩ := ended
    · exact .inl rendered
    · exact .inr (fatal ▸ rfl)
    · exact .inr (fatal ▸ rfl)
  rintro (early | ⟨message, failed⟩)
  · rcases ending with same | same
    · exact absurd (same ▸ early) (by decide)
    · exact absurd (same ▸ early) (by decide)
  · exact ended.isRendering.2.2 message failed

theorem keeps_present (outcome : Outcome) : Keeps (Quietly held) (present outcome) :=
  (ensures_present outcome).weaken fun _ _ => And.right

theorem render_leaves_early :
    Ensures (Quietly (· = tree)) (render surroundings config story) (LeavesEarly tree) := by
  cases formed : formOf config with
  | error fault =>
      have refused : render surroundings config story = (do
          if fault.message ≠ "" then report .error fault.message
          present ⟨.usageError, "", fault.showsHelp⟩) := by
        unfold render
        rw [makePlan_of_usage formed]
        rfl
      rw [refused]
      dsimp only
      split
      · exact (Keeps.bind (keeps_report _ _) fun _ => keeps_present _).weaken fun _ _ => .of_quietly
      · exact (keeps_present _).weaken fun _ _ => .of_quietly
  | ok asked =>
      exact fun world _ early => (((render_carries_out formed) world rfl).not_endsEarly early).elim

theorem judge_leaves_early (checked : Story.Checked) :
    Ensures (Quietly (· = tree)) (judge surroundings config checked) (LeavesEarly tree) := by
  unfold judge
  refine Ensures.bind (Keeps.forM (fun line => keeps_report _ line) _) fun _ => ?_
  split
  · exact Ensures.pure fun _ => .of_quietly
  · split
    · exact render_leaves_early
    · exact Ensures.pure fun _ => .of_quietly

theorem readAndJudge_leaves_early :
    Ensures (Quietly (· = tree)) (readAndJudge surroundings config) (LeavesEarly tree) := by
  refine Ensures.bind keeps_readStory fun read => ?_
  cases read with
  | error fault => exact (ensures_fatal _ _).weaken fun _ _ kept => .of_quietly kept.2
  | ok checked => exact judge_leaves_early checked

theorem keeps_preflight : Keeps (Quietly held) (preflight config) := by
  refine Keeps.andThen Keeps.get fun seen => ?_
  exact Keeps.andThen (Keeps.tryForM (fun remark => Keeps.lift (keeps_report _ _)) _) fun _ =>
    Keeps.ofExcept _

theorem keeps_checkFiles : Keeps (Quietly held) (checkFiles config) := by
  unfold checkFiles
  split
  · exact Keeps.pure _
  · refine Attempts.keeps (Attempts.andThen (Attempts.adapt (keeps_preflight.attempts fun _ => id)) ?_)
    rintro (_ | fault)
    · exact Attempts.pure fun _ => id
    · exact fun world kept => keeps_report _ _ world kept

theorem keeps_prepare (noLog : surroundings.settings.logPath = none) :
    Keeps (Quietly held) (prepare surroundings words) := by
  unfold prepare
  match asked : Config.resolve surroundings.settings words with
  | .error (.usage fault) =>
      simp only [asked]
      exact Keeps.andThen (Keeps.lift (keeps_present _)) fun _ => Keeps.pure _
  | .error (.inconsistent reason) =>
      simp only [asked]
      exact Keeps.throw _
  | .ok .help =>
      simp only [asked]
      exact Keeps.andThen (Keeps.lift (keeps_present _)) fun _ => Keeps.pure _
  | .ok (.run config) =>
      simp only [asked, noLog]
      have configured : Keeps (Quietly held) ((configureLogging surroundings.settings.logLevel none
          config.debug).adapt Escape.logging) :=
        Attempts.keeps (Attempts.adapt ((keeps_configureLogging _ _).attempts fun _ => id))
      refine Keeps.andThen configured fun _ => ?_
      exact Keeps.andThen (Keeps.lift (keeps_report _ _)) fun _ => keeps_checkFiles

/-- Without a log file, a run that ends before anything is published leaves the files as they were. -/
theorem run_leaves_files (noLog : surroundings.settings.logPath = none) (quiet : world.IsQuiet)
    (given : (run surroundings words world).1 = .ok outcome)
    (early : EndsEarly outcome (run surroundings words world).2) :
    (run surroundings words world).2.files = world.files := by
  have left : Attempts (Quietly (· = world.files)) (run surroundings words) (LeavesEarly world.files)
      fun _ => True := by
    rw [run_eq_finish]
    refine Attempts.andThen ((keeps_prepare noLog).attempts fun _ _ => trivial) fun prepared => ?_
    match prepared with
    | .over outcome => exact Attempts.pure fun _ => .of_quietly
    | .ready config => exact Attempts.lift readAndJudge_leaves_early
  have ended : ifGiven _ _ (run surroundings words world).1 (run surroundings words world).2 :=
    left world ⟨quiet, rfl⟩
  rw [given] at ended
  exact ended early

/-- A book without an author, which is missed only when the story has been read. -/
def unauthoredWords : List Text := ["--format", "epub", "--in", "story.md", "--out", "a.epub"]

def unauthoredConfig : Config where
  mode := .render
  format := Config.epubFormat
  inputPath := some "story.md"
  output := some "a.epub"

theorem run_leaves_files_unauthored :
    (run usualSurroundings unauthoredWords { files := shortFiles }).1 = .ok ⟨.usageError, "", false⟩ ∧
      (run usualSurroundings unauthoredWords { files := shortFiles }).2.files = shortFiles := by
  have asked : Config.resolve usualSurroundings.settings unauthoredWords =
      .ok (.run unauthoredConfig) := rfl
  have judged := @runConfig_eq_judge usualSurroundings
    (World.resolved { files := shortFiles } usualSurroundings unauthoredConfig) unauthoredConfig
    "story.md" _ _ rfl rfl (by decide +kernel) (by decide +kernel) ofText_shortSource
  have reached : run usualSurroundings unauthoredWords { files := shortFiles } = _ :=
    (run_eq_runConfig rfl asked).trans judged
  have given : (run usualSurroundings unauthoredWords { files := shortFiles }).1 =
      .ok ⟨.usageError, "", false⟩ := by
    rw [reached]
    decide +kernel
  exact ⟨given, run_leaves_files rfl (isQuiet_start _) given (.inl (by decide))⟩

end Gamebook.Run
