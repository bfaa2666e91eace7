import Gamebook.Play.Page
import Gamebook.Proofs.Play.Exploration
import Gamebook.Proofs.Play.Order
import Gamebook.Proofs.Story.Arrangement
import Gamebook.Proofs.Story.WellFormed

/-!
Plays of stories told in another order. A play asks a story for the parts under a key and not for
their places, which only order the variants of a scene; so the same states are found and the same pages
shown.
-/

namespace Gamebook

/-- What a reader sees of a page, and where. -/
def Play.Page.shown (page : Play.Page) : Play.State × Text := (page.state, page.html)

namespace Story

open Gamebook.Text Gamebook.Source Gamebook.Play Gamebook.Markup

variable {story other : Story} {state : State} {scenes : List Scene} {best scene : Scene}
  {links : List Link} {checked : Checked} {text rearranged : Text}

/-- Variants that stand in the order of their lines are chosen without a look at the lines. -/
theorem isBetter_unplaced (above : best.line < scene.line) :
    isBetter best.unplaced scene.unplaced = isBetter best scene := by
  have notBelow : ¬scene.line < best.line := Nat.not_lt.mpr (Nat.le_of_lt above)
  have unplaced : isBetter best.unplaced scene.unplaced =
      (best.conditions.size < scene.conditions.size ||
        (best.conditions.size = scene.conditions.size && decide (0 < 0))) := rfl
  rw [unplaced, isBetter, decide_eq_false notBelow, decide_eq_false (Nat.lt_irrefl 0)]

theorem foldl_best_unplaced (increasing : (best :: scenes).Pairwise fun left right => left.line < right.line) :
    (scenes.foldl (fun best other => if isBetter best other then other else best) best).unplaced =
      (scenes.map Scene.unplaced).foldl (fun best other => if isBetter best other then other else best)
        best.unplaced := by
  induction scenes generalizing best with
  | nil => rfl
  | cons scene scenes ih =>
      obtain ⟨above, behind⟩ := List.pairwise_cons.mp increasing
      rw [List.map_cons, List.foldl_cons, List.foldl_cons, isBetter_unplaced (above scene List.mem_cons_self)]
      split
      · exact ih behind
      · apply ih
        refine List.pairwise_cons.mpr ⟨fun later member => above later (.tail _ member), ?_⟩
        exact (List.pairwise_cons.mp behind).2

theorem best?_unplaced (increasing : scenes.Pairwise fun left right => left.line < right.line) :
    (best? scenes).map Scene.unplaced = best? (scenes.map Scene.unplaced) := by
  cases scenes with
  | nil => rfl
  | cons first rest => exact congrArg some (foldl_best_unplaced increasing)

theorem candidates_unplaced (story : Story) (state : State) :
    (story.candidates state).map Scene.unplaced =
      ((story.variants state.scene).map Scene.unplaced).filter fun variant =>
        state.allows variant.conditions := by
  rw [List.filter_map]
  rfl

/-- The variants of each scene stand in the order of their lines. -/
def IsOrdered (story : Story) : Prop :=
  ∀ key, (story.variants key).Pairwise fun left right => left.line < right.line

theorem IsOrdered.best?_candidates (ordered : story.IsOrdered) (state : State) :
    (best? (story.candidates state)).map Scene.unplaced =
      best? ((story.candidates state).map Scene.unplaced) :=
  best?_unplaced ((ordered state.scene).sublist List.filter_sublist)

theorem map_unplaced_linksOf (story : Story) (state : State) (scene : Scene) :
    (story.linksOf state scene).map Link.unplaced =
      ((story.freshActions state).map Action.unplaced).flatMap Action.links ++ scene.unplaced.links := by
  simp [linksOf, Scene.unplaced, Action.unplaced, List.map_flatMap, List.flatMap_map]

section Rendering

variable (hrefFor : State → Text) (state : State) (links : List Link)

theorem coverPiece_unplaced :
    coverPiece hrefFor state (links.map Link.unplaced) = coverPiece hrefFor state links := by
  funext piece
  cases piece with
  | plain c => rfl
  | token written =>
      have same : (links.map Link.unplaced).find? (fun link => link.written = written) =
          (links.find? fun link => link.written = written).map Link.unplaced := by
        rw [List.find?_map]
        rfl
      simp only [coverPiece, same]
      cases links.find? fun link => link.written = written <;> rfl

theorem renderBlock_unplaced (description : Text) :
    renderBlock hrefFor state description (links.map Link.unplaced) =
      renderBlock hrefFor state description links := by
  have line : renderLine hrefFor state (links.map Link.unplaced) = renderLine hrefFor state links := by
    funext line
    rw [renderLine, renderLine, coverLine, coverLine, coverPiece_unplaced]
  rw [renderBlock, renderBlock, line]

/-- The markup of a page does not show where its parts stand in the source. -/
theorem renderBody_unplaced (actions : List Action) (scene : Scene) :
    renderBody hrefFor state (actions.map Action.unplaced) scene.unplaced =
      renderBody hrefFor state actions scene := by
  have shown : (actions.map Action.unplaced).mapM (fun action =>
      renderBlock hrefFor state action.description action.links) =
      actions.mapM fun action => renderBlock hrefFor state action.description action.links := by
    rw [List.mapM_map]
    congr 1
    funext action
    exact renderBlock_unplaced hrefFor state action.links action.description
  have last := renderBlock_unplaced hrefFor state scene.links scene.description
  unfold renderBody
  rw [shown]
  change (_ >>= fun _ => renderBlock hrefFor state scene.description (scene.links.map _) >>= _) = _
  rw [last]

end Rendering

section Same

variable (tells : story.TellsAs other)

include tells

theorem TellsAs.freshActions (state : State) :
    (story.freshActions state).map Action.unplaced = (other.freshActions state).map Action.unplaced := by
  unfold Story.freshActions
  rw [List.map_filterMap, List.map_filterMap]
  exact congrArg (fun read => state.fresh.filterMap read) (funext tells.action?)

variable (ordered : story.IsOrdered) (otherOrdered : other.IsOrdered)

include ordered otherOrdered

/-- In each state both show the same variant, or none. -/
theorem TellsAs.resolve_cases (state : State) :
    (∃ scene variant, story.resolve state = .ok scene ∧ other.resolve state = .ok variant ∧
        scene.unplaced = variant.unplaced) ∨
      ∃ error, story.resolve state = .error error ∧ other.resolve state = .error error := by
  have same : (best? (story.candidates state)).map Scene.unplaced =
      (best? (other.candidates state)).map Scene.unplaced := by
    rw [ordered.best?_candidates, otherOrdered.best?_candidates, candidates_unplaced,
      candidates_unplaced, tells.variants]
  unfold Story.resolve
  cases mine : best? (story.candidates state) with
  | none =>
      rw [mine, Option.map_none] at same
      rw [Option.map_eq_none_iff.mp same.symm]
      exact .inr ⟨_, rfl, rfl⟩
  | some scene =>
      rw [mine, Option.map_some] at same
      obtain ⟨variant, theirs, alike⟩ := Option.map_eq_some_iff.mp same.symm
      rw [theirs]
      exact .inl ⟨scene, variant, rfl, rfl, alike.symm⟩

theorem TellsAs.successors (state : State) : story.successors state = other.successors state := by
  rcases tells.resolve_cases ordered otherOrdered state with
    ⟨scene, variant, mine, theirs, alike⟩ | ⟨error, mine, theirs⟩
  · have links : (story.linksOf state scene).map Link.unplaced =
        (other.linksOf state variant).map Link.unplaced := by
      rw [map_unplaced_linksOf, map_unplaced_linksOf, tells.freshActions, alike]
    rw [successors_eq_ok.mpr ⟨scene, mine, rfl⟩, successors_eq_ok.mpr ⟨variant, theirs, rfl⟩]
    exact congrArg Except.ok (follow_openLinks_eq links)
  · rw [Story.successors, Story.successors, mine, theirs]
    rfl

theorem TellsAs.page (hrefFor : State → Text) (state : State) :
    (story.page hrefFor state).map Page.shown = (other.page hrefFor state).map Page.shown := by
  unfold Story.page
  rcases tells.resolve_cases ordered otherOrdered state with
    ⟨scene, variant, mine, theirs, alike⟩ | ⟨error, mine, theirs⟩
  · have body : renderBody hrefFor state (story.freshActions state) scene =
        renderBody hrefFor state (other.freshActions state) variant := by
      rw [← renderBody_unplaced, tells.freshActions, alike, renderBody_unplaced]
    rw [mine, theirs]
    simp only [Except.mapError, bind, Except.bind, body]
    cases renderBody hrefFor state (other.freshActions state) variant <;> rfl
  · rw [mine, theirs]
    rfl

end Same

/-- The walk asks a story only for the successors of states. -/
theorem walkFrom_congr (same : ∀ state, story.successors state = other.successors state)
    (bound : Int) (found : Found) (next : Nat) :
    story.walkFrom bound found next = other.walkFrom bound found next := by
  fun_induction walkFrom story bound found next with
  | case1 found place inside reason blocked =>
      rw [walkFrom_of_inside inside, ← same, blocked]
      rfl
  | case2 found place inside states leads reason full =>
      rw [walkFrom_of_inside inside, ← same, leads, Except.bind, full]
      rfl
  | case3 found place inside states leads next added ih =>
      rw [walkFrom_of_inside inside, ← same, leads, Except.bind, added]
      exact ih
  | case4 found place outside => rw [walkFrom, dif_neg outside]

theorem walk_congr (same : ∀ state, story.successors state = other.successors state)
    (first : story.firstScene = other.firstScene) (bound : Int) :
    story.walk bound = other.walk bound := by
  have start : story.start = other.start := by rw [Story.start, Story.start, first]
  unfold walk
  rw [start, walkFrom_congr same]

/-- Stories that tell the same show the same pages in the same order. -/
theorem TellsAs.pages (tells : story.TellsAs other) (ordered : story.IsOrdered)
    (otherOrdered : other.IsOrdered) (hrefFor : State → Text) (bound : Int) :
    (story.pages hrefFor bound).map (List.map Page.shown) =
      (other.pages hrefFor bound).map (List.map Page.shown) := by
  unfold Story.pages
  rw [walk_congr (tells.successors ordered otherOrdered) tells.firstScene]
  cases other.walk bound with
  | error reason => rfl
  | ok states =>
      have same : (fun state => (story.page hrefFor state).map Page.shown) =
          fun state => (other.page hrefFor state).map Page.shown :=
        funext (tells.page ordered otherOrdered hrefFor)
      change (states.mapM (story.page hrefFor)).map (List.map Page.shown) =
        (states.mapM (other.page hrefFor)).map (List.map Page.shown)
      rw [map_mapM, map_mapM, same]

/-- The order of its blocks does not matter for the play of a story, as long as blocks of one level and
key follow each other as before. -/
theorem plays_of_isRearranged (arranged : IsRearranged text rearranged)
    (accepted : ofText text = .ok checked) :
    ∃ again, ofText rearranged = .ok again ∧
      (∀ bound, again.story.walk bound = checked.story.walk bound) ∧
      ∀ hrefFor bound, (again.story.pages hrefFor bound).map (List.map Page.shown) =
        (checked.story.pages hrefFor bound).map (List.map Page.shown) := by
  obtain ⟨again, acceptedAgain, tells⟩ := exists_tellsAs_of_isRearranged arranged accepted
  have ordered : again.story.IsOrdered := increasing_of_ofText acceptedAgain
  have otherOrdered : checked.story.IsOrdered := increasing_of_ofText accepted
  exact ⟨again, acceptedAgain,
    walk_congr (tells.successors ordered otherOrdered) tells.firstScene,
    tells.pages ordered otherOrdered⟩

/-- The blocks of the story with the key, its second scene and its action in front of the first. -/
def movedKeySource : Text :=
  "# [Key](/hall)\n### Key\nYours.\n## Den\n[Back](/hall)\n".toList
    ++ "## Hall\n[Go](/den#key)\n## [Den](?key)\nLit. [Back](/hall)\n".toList

def hallSection : Section :=
  ⟨"## Hall", ["[Go](/den#key)"], ⟨2, "Hall"⟩, by decide +kernel, by simp, by decide +kernel⟩

def denSection : Section :=
  ⟨"## Den", ["[Back](/hall)"], ⟨2, "Den"⟩, by decide +kernel, by simp, by decide +kernel⟩

def litSection : Section :=
  ⟨"## [Den](?key)", ["Lit. [Back](/hall)"], ⟨2, "[Den](?key)"⟩, by decide +kernel, by simp,
    by decide +kernel⟩

def keySection : Section :=
  ⟨"### Key", ["Yours."], ⟨3, "Key"⟩, by decide +kernel, by simp, by decide +kernel⟩

theorem isRearranged_keySource : IsRearranged keySource movedKeySource := by
  refine ⟨["# [Key](/hall)"], [hallSection, denSection, litSection, keySection],
    [keySection, denSection, hallSection, litSection], by decide +kernel, by decide +kernel, ?_,
    fun level name => ?_⟩
  · have last : ([keySection] ++ [hallSection, denSection, litSection]).Perm
        ([hallSection, denSection, litSection] ++ [keySection]) := List.perm_append_comm
    exact ((List.Perm.swap hallSection denSection [litSection]).cons keySection).trans last
  · have keyLevel : ∀ piece : Section, piece.heading.level = 2 → keySection.isAt level name = true →
        piece.isAt level name = false := fun piece two inKey =>
      Bool.eq_false_iff.mpr fun inPiece => absurd ((Section.same_of_isAt inKey inPiece).1.trans two) (by decide)
    have hallKey : hallSection.isAt level name = true → denSection.isAt level name = false :=
      fun inHall => Bool.eq_false_iff.mpr fun inDen =>
        absurd (Section.same_of_isAt inHall inDen).2 (by decide +kernel)
    by_cases inKey : keySection.isAt level name = true
    · simp [inKey, keyLevel hallSection rfl inKey, keyLevel denSection rfl inKey,
        keyLevel litSection rfl inKey]
    · by_cases inHall : hallSection.isAt level name = true
      · simp [List.filter_cons, inKey, inHall, hallKey inHall]
      · simp [List.filter_cons, inKey, inHall]

theorem plays_of_movedKeySource :
    IsRearranged keySource movedKeySource ∧ ofText keySource = .ok ⟨keyStory, [], []⟩ ∧
      ∃ again, ofText movedKeySource = .ok again ∧
        (∀ bound, again.story.walk bound = keyStory.walk bound) ∧
        ∀ hrefFor bound, (again.story.pages hrefFor bound).map (List.map Page.shown) =
          (keyStory.pages hrefFor bound).map (List.map Page.shown) :=
  ⟨isRearranged_keySource, ofText_keySource,
    plays_of_isRearranged isRearranged_keySource ofText_keySource⟩

end Story

end Gamebook
