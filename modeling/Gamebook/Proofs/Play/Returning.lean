import Gamebook.Proofs.Play.Pages

/-!
Rendering comes to a result. A line that holds the characters around placeholders can write the number of
a fragment that there is not; without them in the texts that are shown, nothing is looked up in vain.
-/

namespace Gamebook.Story

open Gamebook.Text Gamebook.Play Gamebook.Markup

variable {story : Story} {hrefFor : State → Text} {state : State} {text : Text} {checked : Checked}

/-- The texts that a state shows hold none of the characters around placeholders. -/
def ShowsUnmarked (story : Story) (state : State) : Prop :=
  (∀ action ∈ story.freshActions state, IsUnmarked action.description) ∧
    ∀ scene, story.resolve state = .ok scene → IsUnmarked scene.description

/-- No description of a story is longer than the text that it was read from. -/
theorem length_description_le (accepted : ofText text = .ok checked) :
    checked.story.description.length ≤ text.length ∧
      (∀ scene ∈ checked.story.allScenes, scene.description.length ≤ text.length) ∧
      ∀ action ∈ checked.story.allActions, action.description.length ≤ text.length := by
  have built := isBuiltFrom_of_ofText accepted
  have bodies : ∀ block ∈ Source.Block.ofText (text.dropWhile isByteOrderMark),
      block.body.length ≤ text.length := fun block member =>
    Nat.le_trans (Source.Block.length_body_le member) (List.dropWhile_sublist _).length_le
  refine ⟨?_, fun scene inside => ?_, fun action inside => ?_⟩
  · obtain ⟨block, member, same⟩ := description_of_ofText accepted
    exact same ▸ bodies block member
  · obtain ⟨block, member, rfl⟩ := built.scenes scene inside
    exact bodies block member
  · obtain ⟨block, member, rfl⟩ := built.actions action inside
    exact bodies block member

/-- The texts of a page without these characters can be rendered. -/
theorem ShowsUnmarked.isRendered {next : List State} (unmarked : checked.story.ShowsUnmarked state)
    (short : text.length ≤ Placeholder.indexLimit) (accepted : ofText text = .ok checked)
    (leads : checked.story.successors state = .ok next) :
    ∃ scene, checked.story.resolve state = .ok scene ∧ IsRendered scene.description ∧
      ∀ action ∈ checked.story.freshActions state, IsRendered action.description := by
  obtain ⟨-, scenes, actions⟩ := length_description_le accepted
  obtain ⟨scene, resolved, -⟩ := successors_eq_ok.mp leads
  have inStory : scene ∈ checked.story.allScenes :=
    mem_allScenes_of_variants (mem_candidates.mp (resolve_mem resolved)).1
  refine ⟨scene, resolved, ⟨unmarked.2 scene resolved, Nat.le_trans (scenes scene inStory) short⟩,
    fun action fresh => ?_⟩
  obtain ⟨name, _, known⟩ := List.mem_filterMap.mp fresh
  exact ⟨unmarked.1 action fresh, Nat.le_trans (actions action (mem_allActions_of_action? known)) short⟩

/-- Where every state that leads on has a page, the walk has its pages. -/
theorem pages_of_walk {bound : Int} {states : List State} {property : Page → Prop}
    (walked : story.walk bound = .ok states)
    (each : ∀ state ∈ states, ∀ next, story.successors state = .ok next →
      ∃ page, story.page hrefFor state = .ok page ∧ page.state = state ∧ property page) :
    ∃ pages, story.pages hrefFor bound = .ok pages ∧ pages.map Page.state = states ∧
      ∀ page ∈ pages, property page := by
  obtain ⟨found, _, expanded, rfl, _⟩ := walk_ok walked
  obtain ⟨pages, made, paired⟩ := exists_mapM_ok fun state member => by
    obtain ⟨next, leads, _⟩ := expanded state (by rwa [List.take_of_length_le (by simp)])
    exact each state member next leads
  refine ⟨pages, ?_, ?_, fun page member => ?_⟩
  · rw [Story.pages, walked]
    exact made
  · have same : List.Forall₂ (· = ·) found.order.toList (pages.map Page.state) :=
      List.forall₂_map_right_iff.mpr (paired.imp fun _ _ told => told.1.symm)
    rw [List.forall₂_eq_eq_eq] at same
    exact same.symm
  · obtain ⟨state, _, _, told⟩ := exists_mem_of_forall₂ paired member
    exact told

/-- Where the texts that are shown hold none of the characters around placeholders, every state of the
walk has a page, whatever the pages are called, and the description of the story can be rendered. No text
has more characters than there are indices. -/
theorem pages_exist {bound : Int} {states : List State} (short : text.length ≤ Placeholder.indexLimit)
    (accepted : ofText text = .ok checked) (walked : checked.story.walk bound = .ok states)
    (unmarked : ∀ state ∈ states, checked.story.ShowsUnmarked state)
    (introduced : IsUnmarked checked.story.description) (hrefFor : State → Text) :
    (∃ pages, checked.story.pages hrefFor bound = .ok pages ∧ pages.map Page.state = states) ∧
      ∃ html, Blocks.render checked.story.description = .ok html := by
  constructor
  · obtain ⟨pages, made, same, -⟩ := pages_of_walk walked fun state member next leads => by
      obtain ⟨scene, resolved, ofScene, ofActions⟩ := (unmarked state member).isRendered short accepted leads
      obtain ⟨page, made, same, _⟩ := page_shows hrefFor resolved ofActions ofScene
      exact ⟨page, made, same, trivial⟩
    exact ⟨pages, made, same⟩
  · have inText := Nat.le_trans (length_description_le accepted).1 short
    obtain ⟨html, rendered, _⟩ := render_description introduced inText
    exact ⟨html, rendered⟩

/-- A text without these characters shows none. -/
theorem showsUnmarked_of_ofText (short : text.length ≤ Placeholder.indexLimit) (quiet : IsUnmarked text)
    (accepted : ofText text = .ok checked) :
    IsUnmarked checked.story.description ∧ ∀ state, checked.story.ShowsUnmarked state := by
  have built := isBuiltFrom_of_ofText accepted
  have rendered := isRendered_blocks quiet short
  refine ⟨?_, fun state => ⟨fun action fresh => ?_, fun scene resolved => ?_⟩⟩
  · obtain ⟨block, member, same⟩ := description_of_ofText accepted
    exact same ▸ (rendered block member).1
  · obtain ⟨name, _, known⟩ := List.mem_filterMap.mp fresh
    obtain ⟨block, member, rfl⟩ := built.actions action (mem_allActions_of_action? known)
    exact (rendered block member).1
  · have inStory : scene ∈ checked.story.allScenes :=
      mem_allScenes_of_variants (mem_candidates.mp (resolve_mem resolved)).1
    obtain ⟨block, member, rfl⟩ := built.scenes scene inStory
    exact (rendered block member).1

theorem isRendered_pictureSource : IsRendered pictureSource := ⟨by decide, by decide⟩

theorem pages_exist_picture :
    pictureSource.length ≤ Placeholder.indexLimit ∧ ofText pictureSource = .ok ⟨pictureStory, [], []⟩ ∧
      pictureStory.walk 3 = .ok pictureStates ∧
      (∀ state ∈ pictureStates, pictureStory.ShowsUnmarked state) ∧
      IsUnmarked pictureStory.description ∧
      (∃ pages, pictureStory.pages State.scene 3 = .ok pages ∧ pages.map Page.state = pictureStates) ∧
      ∃ html, Blocks.render pictureStory.description = .ok html := by
  obtain ⟨quiet, short⟩ := isRendered_pictureSource
  obtain ⟨introduced, unmarked⟩ := showsUnmarked_of_ofText short quiet ofText_pictureSource
  exact ⟨short, ofText_pictureSource, walk_pictureStory, fun state _ => unmarked state, introduced,
    pages_exist short ofText_pictureSource walk_pictureStory (fun state _ => unmarked state) introduced
      State.scene⟩

/-- A scene whose text writes the number of an image, and that has none. -/
def numberedSource : Text := "# [A](/a)\n## A\n\x000\x00\n"

def numberedStory : Story where
  name := "A"
  description := []
  firstScene := "a"
  scenes := [("a", [⟨"a", "A", "\x000\x00", 2, .empty, []⟩])]

theorem ofText_numberedSource : ofText numberedSource = .ok ⟨numberedStory, [], []⟩ := by
  have cut : Source.Block.ofText (numberedSource.dropWhile isByteOrderMark) = [
      ⟨⟨1, "[A](/a)"⟩, 1, []⟩, ⟨⟨2, "A"⟩, 2, [⟨3, "\x000\x00"⟩]⟩] := by rfl
  have reached : numberedStory.orphans = [] := by
    simp [orphans, unreachedFrom, numberedStory, stops, allScenes, allActions, stopsAt, stopsElsewhere]
  have silent : numberedStory.referenceWarnings = [] :=
    referenceWarnings_eq_nil.mpr (by decide)
  rw [ofText, cut, ofBlocks_of_silent rfl rfl (by with_unfolding_all rfl) rfl silent, reached]

theorem walk_numberedStory : numberedStory.walk 1 = .ok [numberedStory.start] := by
  have leads : numberedStory.successors numberedStory.start = .ok [] := by rfl
  unfold walk
  rw [walkFrom]
  simp [leads, Found.addAll, walkFrom, bind, Except.bind, pure, Except.pure]

/-- The number in the text names no image, so the only page of the story cannot be made. -/
theorem number_without_image :
    ofText numberedSource = .ok ⟨numberedStory, [], []⟩ ∧
      numberedStory.walk 1 = .ok [numberedStory.start] ∧
      numberedStory.pages State.scene 1 = .error (.markup .outOfRange) := by
  refine ⟨ofText_numberedSource, walk_numberedStory, ?_⟩
  have failed : (numberedStory.page State.scene numberedStory.start).map Page.html =
      .error (.markup .outOfRange) := by with_unfolding_all rfl
  cases made : numberedStory.page State.scene numberedStory.start with
  | ok page =>
      rw [made] at failed
      cases failed
  | error reason =>
      rw [made] at failed
      cases failed
      rw [Story.pages, walk_numberedStory]
      change [numberedStory.start].mapM (numberedStory.page State.scene) = _
      rw [List.mapM_cons, made]
      rfl

end Gamebook.Story
