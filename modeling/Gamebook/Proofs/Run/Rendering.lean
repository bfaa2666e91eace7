import Gamebook.Proofs.Publish.Books
import Gamebook.Proofs.Publish.Sites
import Gamebook.Run.Build

/-!
What rendering does to the files that are there: nothing, but for a book at its place.
-/

namespace Gamebook.Files.FileTree.IsSite

variable {before tree : FileTree} {output : Path} {place : Location}

theorem preserves_before (site : before.IsSite output place tree) (wellFormed : before.WellFormed)
    (fresh : before.entry? place = none) : before.Preserves tree where
  workingDirectory := site.preserves.workingDirectory
  directory := site.preserves.directory
  file := fun there => ⟨_, site.file wellFormed fresh there, fun _ => rfl⟩

end Gamebook.Files.FileTree.IsSite

namespace Gamebook.Run

open Gamebook.Text Gamebook.Files Gamebook.Files.FileTree Gamebook.Publish

variable {tree : FileTree} {held : FileTree → Prop} {surroundings : Surroundings} {config : Config}
  {story : Story} {plan : Plan} {location : Location}

def Config.asksForBookAt (config : Config) (tree : FileTree) (location : Location) : Prop :=
  config.format = Config.epubFormat ∧
    ∃ output, config.output = some output ∧ tree.bookPlace? output = some location

/-- A book was rendered, and it took this place. -/
def Config.WritesBook (config : Config) (tree : FileTree) (outcome : Outcome)
    (location : Location) : Prop :=
  outcome.ending = .rendered ∧ config.asksForBookAt tree location

def IsNewSite (tree : FileTree) (output : Path) (files : FileTree) : Prop :=
  ∃ place, tree.entry? place = none ∧ tree.IsSite output place files

/-- What the files are like once there is a plan: a site has its directory, which is new, and nothing
has been done for a book. -/
def IsPlanned (tree : FileTree) (config : Config) : Plan → FileTree → Prop
  | .site job, files => config.format = Config.htmlFormat ∧ IsNewSite tree job.output files
  | .book job _, files => config.format = Config.epubFormat ∧ config.output = some job.output ∧
      files = tree

theorem keeps_readTemplates (directory : Path) : Keeps held (readTemplates directory) := by
  have read : ∀ name, Keeps held (readTemplate directory name) := fun name => keeps_inspect _
  exact Keeps.andThen (read _) fun _ => Keeps.andThen (read _) fun _ =>
    Keeps.andThen (read _) fun _ => Keeps.pure _

theorem keeps_loadTemplates : Keeps (Quietly held) (loadTemplates config) := by
  unfold loadTemplates
  cases config.templateDirectory with
  | none => exact Keeps.pure _
  | some directory =>
      exact Keeps.andThen (Keeps.lift (keeps_report _ _)) fun _ =>
        keeps_onFiles (keeps_readTemplates directory)

theorem formOf_eq_ok {form : Form} {output : Path} (formed : formOf config = .ok (form, output)) :
    config.output = some output ∧ (form = .site ∧ config.format = Config.htmlFormat ∨
      (∃ author, form = .book author) ∧ config.format = Config.epubFormat) := by
  unfold formOf at formed
  split at formed
  · cases formed
  · rename_i asked
    split at formed
    · rename_i html
      cases formed
      exact ⟨asked, .inl ⟨rfl, html⟩⟩
    · split at formed
      · rename_i epub
        split at formed
        · cases formed
        · rename_i author _
          cases formed
          exact ⟨asked, .inr ⟨⟨author, rfl⟩, epub⟩⟩
      · cases formed

theorem attempts_directory (wellFormed : tree.WellFormed) (output : Path) :
    Attempts (· = tree) (makeAllDirectories false output) (fun _ => IsNewSite tree output)
      tree.Preserves := by
  rintro _ rfl
  change ifGiven _ _ (makeDirectories false output _).1 (makeDirectories false output _).2
  cases done : makeDirectories false output _ with
  | mk result files =>
      cases result with
      | error fault =>
          exact (addsDirectories_of_made wellFormed done).preserves
      | ok _ =>
          obtain ⟨place, fresh, site, _⟩ := IsSite.of_makeDirectories wellFormed done
          exact ⟨place, fresh, site⟩

theorem attempts_makePlan (wellFormed : tree.WellFormed) :
    Attempts (Quietly (· = tree)) (makePlan surroundings config story)
      (fun plan => Quietly (IsPlanned tree config plan)) (Quietly tree.Preserves) := by
  have failed : ∀ world : World, Quietly (· = tree) world → Quietly tree.Preserves world :=
    fun world ⟨quiet, same⟩ => ⟨quiet, same ▸ .refl _ _⟩
  unfold makePlan
  refine Attempts.andThen (Attempts.ofExcept failed) ?_
  rintro ⟨form, output⟩ world ⟨formed, unchanged⟩
  have formed : formOf config = .ok (form, output) := by
    cases given : formOf config <;> rw [given] at formed <;> cases formed
    rfl
  obtain ⟨asked, ⟨rfl, html⟩ | ⟨⟨author, rfl⟩, epub⟩⟩ := formOf_eq_ok formed
  · have left : ∀ world : World, Quietly (IsNewSite tree output) world → Quietly tree.Preserves world :=
      fun world ⟨quiet, place, fresh, site⟩ => ⟨quiet, site.preserves_before wellFormed fresh⟩
    refine Attempts.andThen (attempts_onFiles (attempts_directory wellFormed output)) (fun _ => ?_)
      world unchanged
    refine Attempts.andThen (keeps_loadTemplates.attempts left) fun templates => ?_
    exact Attempts.pure fun world ⟨quiet, site⟩ => ⟨quiet, html, site⟩
  · refine Attempts.andThen (keeps_loadTemplates.attempts failed) (fun templates => ?_) world unchanged
    exact Attempts.pure fun world ⟨quiet, same⟩ => ⟨quiet, epub, asked, same⟩

theorem attempts_carryOut (wellFormed : tree.WellFormed) (plan : Plan) :
    Attempts (Quietly (IsPlanned tree config plan)) (carryOut plan)
      (fun _ => Quietly (tree.HoldsBookAt (config.asksForBookAt tree))) (Quietly tree.Preserves) := by
  unfold carryOut
  cases plan with
  | site job =>
      rintro world ⟨quiet, html, place, fresh, site⟩
      have kept : Keeps (Quietly (tree.IsSite job.output place)) (carryOut (.site job)) :=
        Keeps.andThen (Keeps.lift (keeps_report _ _)) fun _ =>
          Keeps.andThen Site.keeps_publish fun _ => Keeps.lift (keeps_report _ _)
      have left : ∀ world : World, Quietly (tree.IsSite job.output place) world →
          Quietly tree.Preserves world :=
        fun world ⟨quiet, site⟩ => ⟨quiet, site.preserves_before wellFormed fresh⟩
      have noBook : ∀ location, ¬config.asksForBookAt tree location := by
        rintro location ⟨epub, -⟩
        rw [html] at epub
        exact absurd epub (by decide)
      refine (kept.attempts left).weaken (fun _ world held => ?_) (fun _ => id) world ⟨quiet, site⟩
      exact ⟨held.1, .of_preserves (left world held).2 noBook⟩
  | book job edition =>
      rintro world ⟨quiet, epub, asked, same⟩
      have failed : ∀ world : World, Quietly (· = tree) world → Quietly tree.Preserves world :=
        fun world ⟨quiet, same⟩ => ⟨quiet, same ▸ .refl _ _⟩
      have same_place : ∀ location, config.asksForBookAt tree location ↔
          tree.bookPlace? job.output = some location := by
        intro location
        simp [Config.asksForBookAt, epub, asked]
      refine Attempts.andThen ((Keeps.lift (keeps_report _ _)).attempts failed) (fun _ => ?_) world
        ⟨quiet, same⟩
      refine Attempts.andThen (Book.attempts_publish wellFormed) fun _ => ?_
      refine Attempts.lift ((keeps_report _ _).weaken fun _ world => ?_)
      rintro ⟨quiet, held⟩
      exact ⟨quiet, held.preserves.weaken fun location => (same_place location).mpr,
        fun inside => held.book ((same_place _).mp inside)⟩

theorem ensures_present (outcome : Outcome) : Ensures (Quietly held) (present outcome)
    fun result world => result.ending = outcome.ending ∧ Quietly held world := by
  have done : Ensures (Quietly held) (pure outcome)
      fun result world => result.ending = outcome.ending ∧ Quietly held world :=
    Ensures.pure fun world kept => ⟨rfl, kept⟩
  have help : Ensures (Quietly held) (do
      if outcome.showsHelp then report .raw usage
      return outcome) fun result world => result.ending = outcome.ending ∧ Quietly held world := by
    dsimp only
    split
    · exact Ensures.bind (keeps_report _ _) fun _ => done
    · exact done
  unfold present
  dsimp only
  split
  · exact Ensures.bind (keeps_report _ _) fun _ => help
  · exact help

theorem ensures_fatal (doing message : String) : Ensures (Quietly held) (fatal doing message)
    fun result world => result.ending = .fatal ∧ Quietly held world :=
  Ensures.bind (keeps_report _ _) fun _ => Ensures.pure fun _ kept => ⟨rfl, kept⟩

theorem holdsBookAt_of_unrendered {outcome : Outcome} {files : FileTree}
    (unrendered : outcome.ending ≠ .rendered) (preserved : tree.Preserves files) :
    tree.HoldsBookAt (config.WritesBook tree outcome) files :=
  .of_preserves preserved fun _ ⟨rendered, _⟩ => unrendered rendered

/-- An outcome other than a rendered story comes with the files that were there. -/
theorem ensures_unrendered {action : StateM World Outcome} {ending : Ending}
    (ensured : Ensures (Quietly tree.Preserves) action
      fun result world => result.ending = ending ∧ Quietly tree.Preserves world)
    (other : ending ≠ .rendered) :
    Ensures (Quietly tree.Preserves) action
      fun outcome => Quietly (tree.HoldsBookAt (config.WritesBook tree outcome)) :=
  ensured.weaken fun _ _ ⟨ended, quiet, preserved⟩ =>
    ⟨quiet, holdsBookAt_of_unrendered (ended ▸ other) preserved⟩

theorem ensures_render (wellFormed : tree.WellFormed) :
    Ensures (Quietly (· = tree)) (render surroundings config story)
      fun outcome => Quietly (tree.HoldsBookAt (config.WritesBook tree outcome)) := by
  unfold render
  refine Ensures.bind (attempts_makePlan wellFormed) fun planned => ?_
  match planned with
  | .error (.usage fault) =>
      have shown : Ensures (Quietly tree.Preserves) (present ⟨.usageError, "", fault.showsHelp⟩)
          fun outcome => Quietly (tree.HoldsBookAt (config.WritesBook tree outcome)) :=
        ensures_unrendered (ensures_present _) nofun
      dsimp only
      split
      · exact Ensures.bind (keeps_report _ _) fun _ => shown
      · exact shown
  | .error (.files fault) => exact ensures_unrendered (ensures_fatal _ _) nofun
  | .ok plan =>
      refine Ensures.bind (attempts_carryOut wellFormed plan) fun carried => ?_
      match carried with
      | .error failure => exact ensures_unrendered (ensures_fatal _ _) nofun
      | .ok () =>
          refine Ensures.pure fun world ⟨quiet, held⟩ => ⟨quiet, ?_, fun inside => held.book inside.2⟩
          exact held.preserves.weaken fun location asked => ⟨rfl, asked⟩

end Gamebook.Run
